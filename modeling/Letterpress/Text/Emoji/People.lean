/-!
# Names of People and Animals

Faces of people and cats, gestures, animals, people and parts of them, what they wear, and
hearts.

The names of people and parts of them may have a tone of skin at the end. A character for
the tone then follows the first character of the pictograph.

## Main definitions

* `faces`, `livingThings`: The pictographs with their names.
* `tones`: The tones with the words for them.
* `tonedNames`: The names that may have a tone.
* `toned`: A pictograph in a tone.
-/

namespace Letterpress.Text.Emoji

/-- Pictographs of faces and gestures, by name. -/
def faces : List (String × Char) :=
  [("grinning_face", '😀'), ("grinning", '😀'), ("beaming_face_with_smiling_eyes", '😁'),
    ("grin", '😁'), ("face_with_tears_of_joy", '😂'), ("joy", '😂'),
    ("grinning_face_with_big_eyes", '😃'), ("smiley", '😃'),
    ("grinning_face_with_smiling_eyes", '😄'), ("smile", '😄'), ("grinning_face_with_sweat", '😅'),
    ("sweat_smile", '😅'), ("grinning_squinting_face", '😆'), ("laughing", '😆'), ("satisfied", '😆'),
    ("smiling_face_with_halo", '😇'), ("innocent", '😇'), ("smiling_face_with_horns", '😈'),
    ("smiling_imp", '😈'), ("winking_face", '😉'), ("wink", '😉'),
    ("smiling_face_with_smiling_eyes", '😊'), ("blush", '😊'), ("face_savoring_food", '😋'),
    ("yum", '😋'), ("relieved_face", '😌'), ("relieved", '😌'),
    ("smiling_face_with_heart-eyes", '😍'), ("heart_eyes", '😍'),
    ("smiling_face_with_sunglasses", '😎'), ("sunglasses", '😎'), ("smirking_face", '😏'),
    ("smirk", '😏'), ("neutral_face", '😐'), ("expressionless_face", '😑'), ("expressionless", '😑'),
    ("unamused_face", '😒'), ("unamused", '😒'), ("downcast_face_with_sweat", '😓'), ("sweat", '😓'),
    ("pensive_face", '😔'), ("pensive", '😔'), ("confused_face", '😕'), ("confused", '😕'),
    ("confounded_face", '😖'), ("confounded", '😖'), ("kissing_face", '😗'), ("kissing", '😗'),
    ("face_blowing_a_kiss", '😘'), ("kissing_heart", '😘'), ("kissing_face_with_smiling_eyes", '😙'),
    ("kissing_smiling_eyes", '😙'), ("kissing_face_with_closed_eyes", '😚'),
    ("kissing_closed_eyes", '😚'), ("face_with_tongue", '😛'), ("stuck_out_tongue", '😛'),
    ("winking_face_with_tongue", '😜'), ("stuck_out_tongue_winking_eye", '😜'),
    ("squinting_face_with_tongue", '😝'), ("stuck_out_tongue_closed_eyes", '😝'),
    ("disappointed_face", '😞'), ("disappointed", '😞'), ("worried_face", '😟'), ("worried", '😟'),
    ("angry_face", '😠'), ("angry", '😠'), ("pouting_face", '😡'), ("rage", '😡'),
    ("crying_face", '😢'), ("cry", '😢'), ("persevering_face", '😣'), ("persevere", '😣'),
    ("face_with_steam_from_nose", '😤'), ("triumph", '😤'), ("sad_but_relieved_face", '😥'),
    ("disappointed_relieved", '😥'), ("frowning_face_with_open_mouth", '😦'), ("frowning", '😦'),
    ("anguished_face", '😧'), ("anguished", '😧'), ("fearful_face", '😨'), ("fearful", '😨'),
    ("weary_face", '😩'), ("weary", '😩'), ("sleepy_face", '😪'), ("sleepy", '😪'),
    ("tired_face", '😫'), ("grimacing_face", '😬'), ("grimacing", '😬'), ("loudly_crying_face", '😭'),
    ("sob", '😭'), ("face_with_open_mouth", '😮'), ("open_mouth", '😮'), ("hushed_face", '😯'),
    ("hushed", '😯'), ("anxious_face_with_sweat", '😰'), ("cold_sweat", '😰'),
    ("face_screaming_in_fear", '😱'), ("scream", '😱'), ("astonished_face", '😲'),
    ("astonished", '😲'), ("flushed_face", '😳'), ("flushed", '😳'), ("sleeping_face", '😴'),
    ("sleeping", '😴'), ("dizzy_face", '😵'), ("face_without_mouth", '😶'), ("no_mouth", '😶'),
    ("face_with_medical_mask", '😷'), ("mask", '😷'), ("grinning_cat_face_with_smiling_eyes", '😸'),
    ("smile_cat", '😸'), ("cat_face_with_tears_of_joy", '😹'), ("joy_cat", '😹'),
    ("grinning_cat_face", '😺'), ("smiley_cat", '😺'), ("smiling_cat_face_with_heart-eyes", '😻'),
    ("heart_eyes_cat", '😻'), ("cat_face_with_wry_smile", '😼'), ("smirk_cat", '😼'),
    ("kissing_cat_face", '😽'), ("kissing_cat", '😽'), ("pouting_cat_face", '😾'),
    ("pouting_cat", '😾'), ("crying_cat_face", '😿'), ("weary_cat_face", '🙀'), ("scream_cat", '🙀'),
    ("slightly_frowning_face", '🙁'), ("slightly_smiling_face", '🙂'), ("upside-down_face", '🙃'),
    ("upside__down_face", '🙃'), ("face_with_rolling_eyes", '🙄'), ("person_gesturing_no", '🙅'),
    ("no_good", '🙅'), ("person_gesturing_ok", '🙆'), ("ok_woman", '🙆'), ("person_bowing", '🙇'),
    ("bow", '🙇'), ("see-no-evil_monkey", '🙈'), ("see_no_evil", '🙈'), ("hear-no-evil_monkey", '🙉'),
    ("hear_no_evil", '🙉'), ("speak-no-evil_monkey", '🙊'), ("speak_no_evil", '🙊'),
    ("person_raising_hand", '🙋'), ("raising_hand", '🙋'), ("raising_hands", '🙌'),
    ("raised_hands", '🙌'), ("person_frowning", '🙍'), ("person_pouting", '🙎'),
    ("person_with_pouting_face", '🙎'), ("folded_hands", '🙏'), ("pray", '🙏')]

/-- Pictographs of animals and people, by name. -/
def livingThings : List (String × Char) :=
  [("rat", '🐀'), ("mouse2", '🐁'), ("ox", '🐂'), ("water_buffalo", '🐃'), ("cow2", '🐄'),
    ("tiger2", '🐅'), ("leopard", '🐆'), ("rabbit2", '🐇'), ("cat2", '🐈'), ("dragon", '🐉'),
    ("crocodile", '🐊'), ("whale2", '🐋'), ("snail", '🐌'), ("snake", '🐍'), ("racehorse", '🐎'),
    ("ram", '🐏'), ("goat", '🐐'), ("ewe", '🐑'), ("sheep", '🐑'), ("monkey", '🐒'), ("rooster", '🐓'),
    ("chicken", '🐔'), ("dog2", '🐕'), ("pig2", '🐖'), ("boar", '🐗'), ("elephant", '🐘'),
    ("octopus", '🐙'), ("spiral_shell", '🐚'), ("shell", '🐚'), ("bug", '🐛'), ("ant", '🐜'),
    ("honeybee", '🐝'), ("bee", '🐝'), ("lady_beetle", '🐞'), ("beetle", '🐞'), ("fish", '🐟'),
    ("tropical_fish", '🐠'), ("blowfish", '🐡'), ("turtle", '🐢'), ("hatching_chick", '🐣'),
    ("baby_chick", '🐤'), ("front-facing_baby_chick", '🐥'), ("hatched_chick", '🐥'), ("bird", '🐦'),
    ("penguin", '🐧'), ("koala", '🐨'), ("poodle", '🐩'), ("dromedary_camel", '🐪'), ("camel", '🐫'),
    ("two-hump_camel", '🐫'), ("dolphin", '🐬'), ("flipper", '🐬'), ("mouse", '🐭'),
    ("mouse_face", '🐭'), ("cow", '🐮'), ("cow_face", '🐮'), ("tiger", '🐯'), ("tiger_face", '🐯'),
    ("rabbit", '🐰'), ("rabbit_face", '🐰'), ("cat", '🐱'), ("cat_face", '🐱'), ("dragon_face", '🐲'),
    ("spouting_whale", '🐳'), ("whale", '🐳'), ("horse", '🐴'), ("horse_face", '🐴'),
    ("monkey_face", '🐵'), ("dog", '🐶'), ("dog_face", '🐶'), ("pig", '🐷'), ("pig_face", '🐷'),
    ("frog_face", '🐸'), ("frog", '🐸'), ("hamster_face", '🐹'), ("hamster", '🐹'),
    ("wolf_face", '🐺'), ("wolf", '🐺'), ("bear_face", '🐻'), ("bear", '🐻'), ("panda_face", '🐼'),
    ("pig_nose", '🐽'), ("paw_prints", '🐾'), ("feet", '🐾'), ("chipmunk", '🐿'), ("eyes", '👀'),
    ("eye", '👁'), ("ear", '👂'), ("nose", '👃'), ("mouth", '👄'), ("lips", '👄'), ("tongue", '👅'),
    ("backhand_index_pointing_up", '👆'), ("point_up_2", '👆'),
    ("backhand_index_pointing_down", '👇'), ("point_down", '👇'),
    ("backhand_index_pointing_left", '👈'), ("point_left", '👈'),
    ("backhand_index_pointing_right", '👉'), ("point_right", '👉'), ("oncoming_fist", '👊'),
    ("facepunch", '👊'), ("punch", '👊'), ("waving_hand", '👋'), ("wave", '👋'), ("ok_hand", '👌'),
    ("thumbs_up", '👍'), ("+1", '👍'), ("thumbsup", '👍'), ("thumbs_down", '👎'), ("__1", '👎'),
    ("-1", '👎'), ("thumbsdown", '👎'), ("clapping_hands", '👏'), ("clap", '👏'), ("open_hands", '👐'),
    ("crown", '👑'), ("woman’s_hat", '👒'), ("womans_hat", '👒'), ("glasses", '👓'),
    ("eyeglasses", '👓'), ("necktie", '👔'), ("t-shirt", '👕'), ("shirt", '👕'), ("tshirt", '👕'),
    ("jeans", '👖'), ("dress", '👗'), ("kimono", '👘'), ("bikini", '👙'), ("woman’s_clothes", '👚'),
    ("womans_clothes", '👚'), ("purse", '👛'), ("handbag", '👜'), ("clutch_bag", '👝'),
    ("pouch", '👝'), ("man’s_shoe", '👞'), ("mans_shoe", '👞'), ("shoe", '👞'), ("running_shoe", '👟'),
    ("athletic_shoe", '👟'), ("high-heeled_shoe", '👠'), ("high_heel", '👠'),
    ("woman’s_sandal", '👡'), ("sandal", '👡'), ("woman’s_boot", '👢'), ("boot", '👢'),
    ("footprints", '👣'), ("bust_in_silhouette", '👤'), ("busts_in_silhouette", '👥'), ("boy", '👦'),
    ("girl", '👧'), ("man", '👨'), ("woman", '👩'), ("family", '👪'),
    ("man_and_woman_holding_hands", '👫'), ("couple", '👫'), ("two_men_holding_hands", '👬'),
    ("two_women_holding_hands", '👭'), ("police_officer", '👮'), ("cop", '👮'),
    ("people_with_bunny_ears", '👯'), ("dancers", '👯'), ("bride_with_veil", '👰'),
    ("blond-haired_person", '👱'), ("person_with_blond_hair", '👱'), ("man_with_chinese_cap", '👲'),
    ("man_with_gua_pi_mao", '👲'), ("person_wearing_turban", '👳'), ("man_with_turban", '👳'),
    ("old_man", '👴'), ("older_man", '👴'), ("old_woman", '👵'), ("older_woman", '👵'), ("baby", '👶'),
    ("construction_worker", '👷'), ("princess", '👸'), ("ogre", '👹'), ("japanese_ogre", '👹'),
    ("goblin", '👺'), ("japanese_goblin", '👺'), ("ghost", '👻'), ("baby_angel", '👼'),
    ("angel", '👼'), ("alien", '👽'), ("alien_monster", '👾'), ("space_invader", '👾'),
    ("angry_face_with_horns", '👿'), ("imp", '👿'), ("skull", '💀'), ("person_tipping_hand", '💁'),
    ("information_desk_person", '💁'), ("guard", '💂'), ("guardsman", '💂'), ("woman_dancing", '💃'),
    ("dancer", '💃'), ("lipstick", '💄'), ("nail_polish", '💅'), ("nail_care", '💅'),
    ("person_getting_massage", '💆'), ("massage", '💆'), ("person_getting_haircut", '💇'),
    ("haircut", '💇'), ("barber_pole", '💈'), ("barber", '💈'), ("syringe", '💉'), ("pill", '💊'),
    ("kiss", '💋'), ("kiss_mark", '💋'), ("love_letter", '💌'), ("ring", '💍'), ("gem_stone", '💎'),
    ("gem", '💎'), ("couplekiss", '💏'), ("bouquet", '💐'), ("couple_with_heart", '💑'),
    ("wedding", '💒'), ("beating_heart", '💓'), ("heartbeat", '💓'), ("broken_heart", '💔'),
    ("two_hearts", '💕'), ("sparkling_heart", '💖'), ("growing_heart", '💗'), ("heartpulse", '💗'),
    ("heart_with_arrow", '💘'), ("cupid", '💘'), ("blue_heart", '💙'), ("green_heart", '💚'),
    ("yellow_heart", '💛'), ("purple_heart", '💜'), ("heart_with_ribbon", '💝'), ("gift_heart", '💝'),
    ("revolving_hearts", '💞'), ("heart_decoration", '💟')]

/-- The tones of skin, by what a name ends in. -/
def tones : List (String × Char) :=
  [("_light_skin_tone", '🏻'), ("_medium-light_skin_tone", '🏼'),
    ("_medium_skin_tone", '🏽'), ("_medium-dark_skin_tone", '🏾'),
    ("_dark_skin_tone", '🏿')]

/-- The names that may have a tone of skin. -/
def tonedNames : List String :=
  ["adult", "baby", "baby_angel", "backhand_index_pointing_down", "backhand_index_pointing_left",
    "backhand_index_pointing_right", "backhand_index_pointing_up", "bearded_person",
    "blond-haired_man", "blond-haired_person", "blond-haired_woman", "boy", "breast-feeding",
    "bride_with_veil", "call_me_hand", "child", "clapping_hands", "construction_worker",
    "crossed_fingers", "detective", "ear", "elf", "fairy", "flexed_biceps", "folded_hands",
    "girl", "guard", "hand_with_fingers_splayed", "horse_racing", "index_pointing_up",
    "left-facing_fist", "love-you_gesture", "mage", "man", "man_artist", "man_astronaut",
    "man_biking", "man_bouncing_ball", "man_bowing", "man_cartwheeling", "man_climbing",
    "man_construction_worker", "man_cook", "man_dancing", "man_detective", "man_elf",
    "man_facepalming", "man_factory_worker", "man_fairy", "man_farmer", "man_firefighter",
    "man_frowning", "man_gesturing_no", "man_gesturing_ok", "man_getting_haircut",
    "man_getting_massage", "man_golfing", "man_guard", "man_health_worker",
    "man_in_lotus_position", "man_in_steamy_room", "man_in_suit_levitating", "man_in_tuxedo",
    "man_judge", "man_juggling", "man_lifting_weights", "man_mage", "man_mechanic",
    "man_mountain_biking", "man_office_worker", "man_pilot", "man_playing_handball",
    "man_playing_water_polo", "man_police_officer", "man_pouting", "man_raising_hand",
    "man_rowing_boat", "man_running", "man_scientist", "man_shrugging", "man_singer",
    "man_student", "man_surfing", "man_swimming", "man_teacher", "man_technologist",
    "man_tipping_hand", "man_vampire", "man_walking", "man_wearing_turban",
    "man_with_chinese_cap", "mermaid", "merman", "merperson", "middle_finger", "mrs._claus",
    "nail_polish", "nose", "ok_hand", "old_man", "old_woman", "older_adult", "oncoming_fist",
    "open_hands", "palms_up_together", "person_biking", "person_bouncing_ball", "person_bowing",
    "person_cartwheeling", "person_climbing", "person_facepalming", "person_frowning",
    "person_gesturing_no", "person_gesturing_ok", "person_getting_haircut",
    "person_getting_massage", "person_golfing", "person_in_bed", "person_in_lotus_position",
    "person_in_steamy_room", "person_juggling", "person_lifting_weights",
    "person_mountain_biking", "person_playing_handball", "person_playing_water_polo",
    "person_pouting", "person_raising_hand", "person_rowing_boat", "person_running",
    "person_shrugging", "person_surfing", "person_swimming", "person_taking_bath",
    "person_tipping_hand", "person_walking", "person_wearing_turban", "police_officer",
    "pregnant_woman", "prince", "princess", "raised_back_of_hand", "raised_fist", "raised_hand",
    "raising_hands", "right-facing_fist", "santa_claus", "selfie", "sign_of_the_horns",
    "snowboarder", "thumbs_down", "thumbs_up", "vampire", "victory_hand", "vulcan_salute",
    "waving_hand", "woman", "woman_artist", "woman_astronaut", "woman_biking",
    "woman_bouncing_ball", "woman_bowing", "woman_cartwheeling", "woman_climbing",
    "woman_construction_worker", "woman_cook", "woman_dancing", "woman_detective", "woman_elf",
    "woman_facepalming", "woman_factory_worker", "woman_fairy", "woman_farmer",
    "woman_firefighter", "woman_frowning", "woman_gesturing_no", "woman_gesturing_ok",
    "woman_getting_haircut", "woman_getting_massage", "woman_golfing", "woman_guard",
    "woman_health_worker", "woman_in_lotus_position", "woman_in_steamy_room", "woman_judge",
    "woman_juggling", "woman_lifting_weights", "woman_mage", "woman_mechanic",
    "woman_mountain_biking", "woman_office_worker", "woman_pilot", "woman_playing_handball",
    "woman_playing_water_polo", "woman_police_officer", "woman_pouting", "woman_raising_hand",
    "woman_rowing_boat", "woman_running", "woman_scientist", "woman_shrugging", "woman_singer",
    "woman_student", "woman_surfing", "woman_swimming", "woman_teacher", "woman_technologist",
    "woman_tipping_hand", "woman_vampire", "woman_walking", "woman_wearing_turban",
    "woman_with_headscarf", "writing_hand"]

/-- A pictograph in a tone of skin, which takes the place of a selector. -/
def toned (tone : Char) : List Char → List Char
  | c :: '\uFE0F' :: rest => c :: tone :: rest
  | c :: rest => c :: tone :: rest
  | [] => []

end Letterpress.Text.Emoji
