/-!
# Names of Things

Objects of home and office, signs and buttons, and clocks, and the pictographs of all kinds
that were added later.

## Main definitions

* `things`, `additions`: The pictographs with their names.
-/

namespace Letterpress.Text.Emoji

/-- Pictographs of things, by name. -/
def things : List (String × Char) :=
  [("diamond_with_a_dot", '💠'), ("diamond_shape_with_a_dot_inside", '💠'), ("light_bulb", '💡'),
    ("bulb", '💡'), ("anger_symbol", '💢'), ("anger", '💢'), ("bomb", '💣'), ("zzz", '💤'),
    ("collision", '💥'), ("boom", '💥'), ("sweat_droplets", '💦'), ("sweat_drops", '💦'),
    ("droplet", '💧'), ("dashing_away", '💨'), ("dash", '💨'), ("pile_of_poo", '💩'), ("hankey", '💩'),
    ("poop", '💩'), ("shit", '💩'), ("flexed_biceps", '💪'), ("muscle", '💪'), ("dizzy", '💫'),
    ("speech_balloon", '💬'), ("thought_balloon", '💭'), ("white_flower", '💮'),
    ("hundred_points", '💯'), ("100", '💯'), ("money_bag", '💰'), ("moneybag", '💰'),
    ("currency_exchange", '💱'), ("heavy_dollar_sign", '💲'), ("credit_card", '💳'),
    ("yen_banknote", '💴'), ("yen", '💴'), ("dollar_banknote", '💵'), ("dollar", '💵'),
    ("euro_banknote", '💶'), ("euro", '💶'), ("pound_banknote", '💷'), ("pound", '💷'),
    ("money_with_wings", '💸'), ("chart_increasing_with_yen", '💹'), ("chart", '💹'), ("seat", '💺'),
    ("laptop_computer", '💻'), ("computer", '💻'), ("briefcase", '💼'), ("computer_disk", '💽'),
    ("minidisc", '💽'), ("floppy_disk", '💾'), ("optical_disk", '💿'), ("cd", '💿'), ("dvd", '📀'),
    ("file_folder", '📁'), ("open_file_folder", '📂'), ("page_with_curl", '📃'),
    ("page_facing_up", '📄'), ("date", '📅'), ("calendar", '📆'), ("tear-off_calendar", '📆'),
    ("card_index", '📇'), ("chart_increasing", '📈'), ("chart_with_upwards_trend", '📈'),
    ("chart_decreasing", '📉'), ("chart_with_downwards_trend", '📉'), ("bar_chart", '📊'),
    ("clipboard", '📋'), ("pushpin", '📌'), ("round_pushpin", '📍'), ("paperclip", '📎'),
    ("straight_ruler", '📏'), ("triangular_ruler", '📐'), ("bookmark_tabs", '📑'), ("ledger", '📒'),
    ("notebook", '📓'), ("notebook_with_decorative_cover", '📔'), ("closed_book", '📕'),
    ("open_book", '📖'), ("book", '📖'), ("green_book", '📗'), ("blue_book", '📘'),
    ("orange_book", '📙'), ("books", '📚'), ("name_badge", '📛'), ("scroll", '📜'), ("memo", '📝'),
    ("pencil", '📝'), ("telephone_receiver", '📞'), ("pager", '📟'), ("fax_machine", '📠'),
    ("fax", '📠'), ("satellite", '📡'), ("satellite_antenna", '📡'), ("loudspeaker", '📢'),
    ("megaphone", '📣'), ("mega", '📣'), ("outbox_tray", '📤'), ("inbox_tray", '📥'),
    ("package", '📦'), ("e-mail", '📧'), ("e__mail", '📧'), ("incoming_envelope", '📨'),
    ("envelope_with_arrow", '📩'), ("closed_mailbox_with_lowered_flag", '📪'),
    ("mailbox_closed", '📪'), ("closed_mailbox_with_raised_flag", '📫'), ("mailbox", '📫'),
    ("open_mailbox_with_raised_flag", '📬'), ("mailbox_with_mail", '📬'),
    ("open_mailbox_with_lowered_flag", '📭'), ("mailbox_with_no_mail", '📭'), ("postbox", '📮'),
    ("postal_horn", '📯'), ("newspaper", '📰'), ("mobile_phone", '📱'), ("iphone", '📱'),
    ("mobile_phone_with_arrow", '📲'), ("calling", '📲'), ("vibration_mode", '📳'),
    ("mobile_phone_off", '📴'), ("no_mobile_phones", '📵'), ("antenna_bars", '📶'),
    ("signal_strength", '📶'), ("camera", '📷'), ("camera_with_flash", '📸'), ("video_camera", '📹'),
    ("television", '📺'), ("tv", '📺'), ("radio", '📻'), ("videocassette", '📼'), ("vhs", '📼'),
    ("film_projector", '📽'), ("prayer_beads", '📿'), ("shuffle_tracks_button", '🔀'),
    ("twisted_rightwards_arrows", '🔀'), ("repeat_button", '🔁'), ("repeat", '🔁'),
    ("repeat_single_button", '🔂'), ("repeat_one", '🔂'), ("clockwise_vertical_arrows", '🔃'),
    ("arrows_clockwise", '🔃'), ("counterclockwise_arrows_button", '🔄'),
    ("arrows_counterclockwise", '🔄'), ("dim_button", '🔅'), ("low_brightness", '🔅'),
    ("bright_button", '🔆'), ("high_brightness", '🔆'), ("muted_speaker", '🔇'), ("mute", '🔇'),
    ("speaker_low_volume", '🔈'), ("speaker", '🔈'), ("speaker_medium_volume", '🔉'), ("sound", '🔉'),
    ("speaker_high_volume", '🔊'), ("loud_sound", '🔊'), ("battery", '🔋'), ("electric_plug", '🔌'),
    ("magnifying_glass_tilted_left", '🔍'), ("mag", '🔍'), ("magnifying_glass_tilted_right", '🔎'),
    ("mag_right", '🔎'), ("locked_with_pen", '🔏'), ("lock_with_ink_pen", '🔏'),
    ("locked_with_key", '🔐'), ("closed_lock_with_key", '🔐'), ("key", '🔑'), ("locked", '🔒'),
    ("lock", '🔒'), ("unlocked", '🔓'), ("unlock", '🔓'), ("bell", '🔔'), ("bell_with_slash", '🔕'),
    ("no_bell", '🔕'), ("bookmark", '🔖'), ("link", '🔗'), ("radio_button", '🔘'),
    ("back_arrow", '🔙'), ("back", '🔙'), ("end_arrow", '🔚'), ("end", '🔚'), ("on!_arrow", '🔛'),
    ("on", '🔛'), ("soon_arrow", '🔜'), ("soon", '🔜'), ("top_arrow", '🔝'), ("top", '🔝'),
    ("no_one_under_eighteen", '🔞'), ("underage", '🔞'), ("keycap_10", '🔟'), ("ten", '🔟'),
    ("input_latin_uppercase", '🔠'), ("capital_abcd", '🔠'), ("input_latin_lowercase", '🔡'),
    ("abcd", '🔡'), ("input_numbers", '🔢'), ("1234", '🔢'), ("input_symbols", '🔣'),
    ("symbols", '🔣'), ("input_latin_letters", '🔤'), ("abc", '🔤'), ("fire", '🔥'),
    ("flashlight", '🔦'), ("wrench", '🔧'), ("hammer", '🔨'), ("nut_and_bolt", '🔩'),
    ("kitchen_knife", '🔪'), ("hocho", '🔪'), ("knife", '🔪'), ("pistol", '🔫'), ("gun", '🔫'),
    ("microscope", '🔬'), ("telescope", '🔭'), ("crystal_ball", '🔮'),
    ("dotted_six-pointed_star", '🔯'), ("six_pointed_star", '🔯'),
    ("japanese_symbol_for_beginner", '🔰'), ("beginner", '🔰'), ("trident_emblem", '🔱'),
    ("trident", '🔱'), ("black_square_button", '🔲'), ("white_square_button", '🔳'),
    ("red_circle", '🔴'), ("blue_circle", '🔵'), ("large_blue_circle", '🔵'),
    ("large_orange_diamond", '🔶'), ("large_blue_diamond", '🔷'), ("small_orange_diamond", '🔸'),
    ("small_blue_diamond", '🔹'), ("red_triangle_pointed_up", '🔺'), ("small_red_triangle", '🔺'),
    ("red_triangle_pointed_down", '🔻'), ("small_red_triangle_down", '🔻'), ("upwards_button", '🔼'),
    ("arrow_up_small", '🔼'), ("downwards_button", '🔽'), ("arrow_down_small", '🔽'), ("om", '🕉'),
    ("om_symbol", '🕉'), ("dove", '🕊'), ("dove_of_peace", '🕊'), ("kaaba", '🕋'), ("mosque", '🕌'),
    ("synagogue", '🕍'), ("menorah", '🕎'), ("menorah_with_nine_branches", '🕎'),
    ("one_o’clock", '🕐'), ("clock1", '🕐'), ("two_o’clock", '🕑'), ("clock2", '🕑'),
    ("three_o’clock", '🕒'), ("clock3", '🕒'), ("four_o’clock", '🕓'), ("clock4", '🕓'),
    ("five_o’clock", '🕔'), ("clock5", '🕔'), ("six_o’clock", '🕕'), ("clock6", '🕕'),
    ("seven_o’clock", '🕖'), ("clock7", '🕖'), ("eight_o’clock", '🕗'), ("clock8", '🕗'),
    ("nine_o’clock", '🕘'), ("clock9", '🕘'), ("ten_o’clock", '🕙'), ("clock10", '🕙'),
    ("eleven_o’clock", '🕚'), ("clock11", '🕚'), ("twelve_o’clock", '🕛'), ("clock12", '🕛'),
    ("one-thirty", '🕜'), ("clock130", '🕜'), ("two-thirty", '🕝'), ("clock230", '🕝'),
    ("three-thirty", '🕞'), ("clock330", '🕞'), ("four-thirty", '🕟'), ("clock430", '🕟'),
    ("five-thirty", '🕠'), ("clock530", '🕠'), ("six-thirty", '🕡'), ("clock630", '🕡'),
    ("seven-thirty", '🕢'), ("clock730", '🕢'), ("eight-thirty", '🕣'), ("clock830", '🕣'),
    ("nine-thirty", '🕤'), ("clock930", '🕤'), ("ten-thirty", '🕥'), ("clock1030", '🕥'),
    ("eleven-thirty", '🕦'), ("clock1130", '🕦'), ("twelve-thirty", '🕧'), ("clock1230", '🕧'),
    ("candle", '🕯'), ("mantelpiece_clock", '🕰'), ("hole", '🕳'), ("man_in_suit_levitating", '🕴'),
    ("man_in_business_suit_levitating", '🕴'), ("detective", '🕵'), ("sleuth_or_spy", '🕵'),
    ("dark_sunglasses", '🕶'), ("spider", '🕷'), ("spider_web", '🕸'), ("joystick", '🕹'),
    ("man_dancing", '🕺'), ("linked_paperclips", '🖇'), ("pen", '🖊'),
    ("lower_left_ballpoint_pen", '🖊'), ("fountain_pen", '🖋'), ("lower_left_fountain_pen", '🖋'),
    ("paintbrush", '🖌'), ("lower_left_paintbrush", '🖌'), ("crayon", '🖍'),
    ("lower_left_crayon", '🖍'), ("hand_with_fingers_splayed", '🖐'),
    ("raised_hand_with_fingers_splayed", '🖐'), ("middle_finger", '🖕'),
    ("reversed_hand_with_middle_finger_extended", '🖕'), ("vulcan_salute", '🖖'),
    ("raised_hand_with_part_between_middle_and_ring_fingers", '🖖'), ("black_heart", '🖤'),
    ("desktop_computer", '🖥'), ("printer", '🖨'), ("computer_mouse", '🖱'),
    ("three_button_mouse", '🖱'), ("trackball", '🖲'), ("framed_picture", '🖼'),
    ("frame_with_picture", '🖼'), ("card_index_dividers", '🗂'), ("card_file_box", '🗃'),
    ("file_cabinet", '🗄'), ("wastebasket", '🗑'), ("spiral_notepad", '🗒'),
    ("spiral_note_pad", '🗒'), ("spiral_calendar", '🗓'), ("spiral_calendar_pad", '🗓'),
    ("clamp", '🗜'), ("compression", '🗜'), ("old_key", '🗝'), ("rolled-up_newspaper", '🗞'),
    ("rolled__up_newspaper", '🗞'), ("dagger", '🗡'), ("dagger_knife", '🗡'), ("speaking_head", '🗣'),
    ("speaking_head_in_silhouette", '🗣'), ("left_speech_bubble", '🗨'),
    ("right_anger_bubble", '🗯'), ("ballot_box_with_ballot", '🗳'), ("world_map", '🗺'),
    ("mount_fuji", '🗻'), ("tokyo_tower", '🗼'), ("statue_of_liberty", '🗽'), ("japan", '🗾'),
    ("map_of_japan", '🗾'), ("moai", '🗿'), ("moyai", '🗿')]

/-- Pictographs that were added later, by name. -/
def additions : List (String × Char) :=
  [("orange_circle", '🟠'), ("yellow_circle", '🟡'), ("green_circle", '🟢'), ("purple_circle", '🟣'),
    ("brown_circle", '🟤'), ("red_square", '🟥'), ("blue_square", '🟦'), ("orange_square", '🟧'),
    ("yellow_square", '🟨'), ("green_square", '🟩'), ("purple_square", '🟪'), ("brown_square", '🟫'),
    ("white_heart", '🤍'), ("brown_heart", '🤎'), ("pinching_hand", '🤏'),
    ("zipper-mouth_face", '🤐'), ("zipper__mouth_face", '🤐'), ("money-mouth_face", '🤑'),
    ("money__mouth_face", '🤑'), ("face_with_thermometer", '🤒'), ("nerd_face", '🤓'),
    ("thinking_face", '🤔'), ("face_with_head-bandage", '🤕'), ("face_with_head__bandage", '🤕'),
    ("robot_face", '🤖'), ("robot", '🤖'), ("hugging_face", '🤗'), ("sign_of_the_horns", '🤘'),
    ("call_me_hand", '🤙'), ("raised_back_of_hand", '🤚'), ("left-facing_fist", '🤛'),
    ("right-facing_fist", '🤜'), ("handshake", '🤝'), ("crossed_fingers", '🤞'),
    ("love-you_gesture", '🤟'), ("cowboy_hat_face", '🤠'), ("clown_face", '🤡'),
    ("nauseated_face", '🤢'), ("rolling_on_the_floor_laughing", '🤣'), ("drooling_face", '🤤'),
    ("lying_face", '🤥'), ("person_facepalming", '🤦'), ("sneezing_face", '🤧'),
    ("face_with_raised_eyebrow", '🤨'), ("star-struck", '🤩'), ("zany_face", '🤪'),
    ("shushing_face", '🤫'), ("face_with_symbols_on_mouth", '🤬'),
    ("face_with_hand_over_mouth", '🤭'), ("face_vomiting", '🤮'), ("exploding_head", '🤯'),
    ("pregnant_woman", '🤰'), ("breast-feeding", '🤱'), ("palms_up_together", '🤲'), ("selfie", '🤳'),
    ("prince", '🤴'), ("man_in_tuxedo", '🤵'), ("mrs._claus", '🤶'), ("person_shrugging", '🤷'),
    ("person_cartwheeling", '🤸'), ("person_juggling", '🤹'), ("person_fencing", '🤺'),
    ("people_wrestling", '🤼'), ("person_playing_water_polo", '🤽'),
    ("person_playing_handball", '🤾'), ("diving_mask", '🤿'), ("wilted_flower", '🥀'), ("drum", '🥁'),
    ("clinking_glasses", '🥂'), ("tumbler_glass", '🥃'), ("spoon", '🥄'), ("goal_net", '🥅'),
    ("1st_place_medal", '🥇'), ("2nd_place_medal", '🥈'), ("3rd_place_medal", '🥉'),
    ("boxing_glove", '🥊'), ("martial_arts_uniform", '🥋'), ("curling_stone", '🥌'),
    ("lacrosse", '🥍'), ("softball", '🥎'), ("flying_disc", '🥏'), ("croissant", '🥐'),
    ("avocado", '🥑'), ("cucumber", '🥒'), ("bacon", '🥓'), ("potato", '🥔'), ("carrot", '🥕'),
    ("baguette_bread", '🥖'), ("green_salad", '🥗'), ("shallow_pan_of_food", '🥘'),
    ("stuffed_flatbread", '🥙'), ("glass_of_milk", '🥛'), ("peanuts", '🥜'), ("kiwi_fruit", '🥝'),
    ("pancakes", '🥞'), ("dumpling", '🥟'), ("fortune_cookie", '🥠'), ("takeout_box", '🥡'),
    ("chopsticks", '🥢'), ("bowl_with_spoon", '🥣'), ("cup_with_straw", '🥤'), ("coconut", '🥥'),
    ("broccoli", '🥦'), ("pie", '🥧'), ("pretzel", '🥨'), ("cut_of_meat", '🥩'), ("sandwich", '🥪'),
    ("canned_food", '🥫'), ("leafy_green", '🥬'), ("mango", '🥭'), ("moon_cake", '🥮'),
    ("bagel", '🥯'), ("smiling_face_with_3_hearts", '🥰'), ("yawning_face", '🥱'),
    ("partying_face", '🥳'), ("woozy_face", '🥴'), ("hot_face", '🥵'), ("cold_face", '🥶'),
    ("pleading_face", '🥺'), ("sari", '🥻'), ("lab_coat", '🥼'), ("goggles", '🥽'),
    ("hiking_boot", '🥾'), ("flat_shoe", '🥿'), ("crab", '🦀'), ("lion_face", '🦁'),
    ("scorpion", '🦂'), ("turkey", '🦃'), ("unicorn_face", '🦄'), ("eagle", '🦅'), ("duck", '🦆'),
    ("bat", '🦇'), ("shark", '🦈'), ("owl", '🦉'), ("fox_face", '🦊'), ("butterfly", '🦋'),
    ("deer", '🦌'), ("gorilla", '🦍'), ("lizard", '🦎'), ("rhinoceros", '🦏'), ("shrimp", '🦐'),
    ("squid", '🦑'), ("giraffe", '🦒'), ("zebra", '🦓'), ("hedgehog", '🦔'), ("sauropod", '🦕'),
    ("t-rex", '🦖'), ("cricket", '🦗'), ("kangaroo", '🦘'), ("llama", '🦙'), ("peacock", '🦚'),
    ("hippopotamus", '🦛'), ("parrot", '🦜'), ("raccoon", '🦝'), ("lobster", '🦞'), ("mosquito", '🦟'),
    ("microbe", '🦠'), ("badger", '🦡'), ("swan", '🦢'), ("sloth", '🦥'), ("otter", '🦦'),
    ("orangutan", '🦧'), ("skunk", '🦨'), ("flamingo", '🦩'), ("oyster", '🦪'), ("guide_dog", '🦮'),
    ("probing_cane", '🦯'), ("red_hair", '🦰'), ("curly_hair", '🦱'), ("bald", '🦲'),
    ("white_hair", '🦳'), ("bone", '🦴'), ("leg", '🦵'), ("foot", '🦶'), ("tooth", '🦷'),
    ("superhero", '🦸'), ("supervillain", '🦹'), ("safety_vest", '🦺'),
    ("ear_with_hearing_aid", '🦻'), ("motorized_wheelchair", '🦼'), ("manual_wheelchair", '🦽'),
    ("mechanical_arm", '🦾'), ("mechanical_leg", '🦿'), ("cheese_wedge", '🧀'), ("cupcake", '🧁'),
    ("salt", '🧂'), ("beverage_box", '🧃'), ("garlic", '🧄'), ("onion", '🧅'), ("falafel", '🧆'),
    ("waffle", '🧇'), ("butter", '🧈'), ("mate", '🧉'), ("ice", '🧊'), ("person_standing", '🧍'),
    ("person_kneeling", '🧎'), ("deaf_person", '🧏'), ("face_with_monocle", '🧐'), ("adult", '🧑'),
    ("child", '🧒'), ("older_adult", '🧓'), ("bearded_person", '🧔'), ("woman_with_headscarf", '🧕'),
    ("person_in_steamy_room", '🧖'), ("person_climbing", '🧗'), ("person_in_lotus_position", '🧘'),
    ("mage", '🧙'), ("fairy", '🧚'), ("vampire", '🧛'), ("merperson", '🧜'), ("elf", '🧝'),
    ("genie", '🧞'), ("zombie", '🧟'), ("brain", '🧠'), ("orange_heart", '🧡'), ("billed_cap", '🧢'),
    ("scarf", '🧣'), ("gloves", '🧤'), ("coat", '🧥'), ("socks", '🧦'), ("red_envelope", '🧧'),
    ("firecracker", '🧨'), ("jigsaw", '🧩'), ("test_tube", '🧪'), ("petri_dish", '🧫'), ("dna", '🧬'),
    ("compass", '🧭'), ("abacus", '🧮'), ("fire_extinguisher", '🧯'), ("toolbox", '🧰'),
    ("brick", '🧱'), ("magnet", '🧲'), ("luggage", '🧳'), ("lotion_bottle", '🧴'), ("thread", '🧵'),
    ("yarn", '🧶'), ("safety_pin", '🧷'), ("teddy_bear", '🧸'), ("broom", '🧹'), ("basket", '🧺'),
    ("roll_of_paper", '🧻'), ("soap", '🧼'), ("sponge", '🧽'), ("receipt", '🧾'),
    ("nazar_amulet", '🧿'), ("ballet_shoes", '🩰'), ("one-piece_swimsuit", '🩱'), ("briefs", '🩲'),
    ("shorts", '🩳'), ("drop_of_blood", '🩸'), ("adhesive_bandage", '🩹'), ("stethoscope", '🩺'),
    ("yo-yo", '🪀'), ("kite", '🪁'), ("ringed_planet", '🪐'), ("chair", '🪑'), ("razor", '🪒'),
    ("axe", '🪓'), ("diya_lamp", '🪔'), ("banjo", '🪕')]

end Letterpress.Text.Emoji
