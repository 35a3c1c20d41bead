/-!
# Names of Scenery, Travel and Flags

Weather, plants and food, feasts and sports, and buildings; vehicles, road signs, and what
is found on the way.

The flag of a country is a pair of letters, the code of the country. The name of the flag
is the name of the country, in most cases with or without words in front of it.

## Main definitions

* `scenery`, `travel`: The pictographs with their names.
* `countries`, `countriesAlone`, `countriesInFull`: The codes of countries by their names.
* `flagLetter`: A letter as a part of a flag.
* `flag?`: The flag with a name.
-/

namespace Letterpress.Text.Emoji

/-- Pictographs of what surrounds people and what they enjoy, by name. -/
def scenery : List (String × Char) :=
  [("cyclone", '🌀'), ("foggy", '🌁'), ("closed_umbrella", '🌂'), ("night_with_stars", '🌃'),
    ("sunrise_over_mountains", '🌄'), ("sunrise", '🌅'), ("cityscape_at_dusk", '🌆'),
    ("city_sunset", '🌆'), ("sunset", '🌇'), ("city_sunrise", '🌇'), ("rainbow", '🌈'),
    ("bridge_at_night", '🌉'), ("water_wave", '🌊'), ("ocean", '🌊'), ("volcano", '🌋'),
    ("milky_way", '🌌'), ("globe_showing_europe-africa", '🌍'), ("earth_africa", '🌍'),
    ("globe_showing_americas", '🌎'), ("earth_americas", '🌎'),
    ("globe_showing_asia-australia", '🌏'), ("earth_asia", '🌏'), ("globe_with_meridians", '🌐'),
    ("new_moon", '🌑'), ("waxing_crescent_moon", '🌒'), ("first_quarter_moon", '🌓'),
    ("waxing_gibbous_moon", '🌔'), ("moon", '🌔'), ("full_moon", '🌕'), ("waning_gibbous_moon", '🌖'),
    ("last_quarter_moon", '🌗'), ("waning_crescent_moon", '🌘'), ("crescent_moon", '🌙'),
    ("new_moon_face", '🌚'), ("new_moon_with_face", '🌚'), ("first_quarter_moon_face", '🌛'),
    ("first_quarter_moon_with_face", '🌛'), ("last_quarter_moon_face", '🌜'),
    ("last_quarter_moon_with_face", '🌜'), ("full_moon_face", '🌝'), ("full_moon_with_face", '🌝'),
    ("sun_with_face", '🌞'), ("glowing_star", '🌟'), ("star2", '🌟'), ("shooting_star", '🌠'),
    ("stars", '🌠'), ("thermometer", '🌡'), ("sun_behind_small_cloud", '🌤'),
    ("white_sun_with_small_cloud", '🌤'), ("sun_behind_large_cloud", '🌥'),
    ("white_sun_behind_cloud", '🌥'), ("sun_behind_rain_cloud", '🌦'),
    ("white_sun_behind_cloud_with_rain", '🌦'), ("cloud_with_rain", '🌧'), ("cloud_with_snow", '🌨'),
    ("cloud_with_lightning", '🌩'), ("tornado", '🌪'), ("cloud_with_tornado", '🌪'), ("fog", '🌫'),
    ("wind_face", '🌬'), ("wind_blowing_face", '🌬'), ("hot_dog", '🌭'), ("taco", '🌮'),
    ("burrito", '🌯'), ("chestnut", '🌰'), ("seedling", '🌱'), ("evergreen_tree", '🌲'),
    ("deciduous_tree", '🌳'), ("palm_tree", '🌴'), ("cactus", '🌵'), ("hot_pepper", '🌶'),
    ("tulip", '🌷'), ("cherry_blossom", '🌸'), ("rose", '🌹'), ("hibiscus", '🌺'), ("sunflower", '🌻'),
    ("blossom", '🌼'), ("ear_of_corn", '🌽'), ("corn", '🌽'), ("sheaf_of_rice", '🌾'),
    ("ear_of_rice", '🌾'), ("herb", '🌿'), ("four_leaf_clover", '🍀'), ("maple_leaf", '🍁'),
    ("fallen_leaf", '🍂'), ("leaf_fluttering_in_wind", '🍃'), ("leaves", '🍃'), ("mushroom", '🍄'),
    ("tomato", '🍅'), ("eggplant", '🍆'), ("grapes", '🍇'), ("melon", '🍈'), ("watermelon", '🍉'),
    ("tangerine", '🍊'), ("lemon", '🍋'), ("banana", '🍌'), ("pineapple", '🍍'), ("red_apple", '🍎'),
    ("apple", '🍎'), ("green_apple", '🍏'), ("pear", '🍐'), ("peach", '🍑'), ("cherries", '🍒'),
    ("strawberry", '🍓'), ("hamburger", '🍔'), ("pizza", '🍕'), ("meat_on_bone", '🍖'),
    ("poultry_leg", '🍗'), ("rice_cracker", '🍘'), ("rice_ball", '🍙'), ("cooked_rice", '🍚'),
    ("rice", '🍚'), ("curry_rice", '🍛'), ("curry", '🍛'), ("steaming_bowl", '🍜'), ("ramen", '🍜'),
    ("spaghetti", '🍝'), ("bread", '🍞'), ("french_fries", '🍟'), ("fries", '🍟'),
    ("roasted_sweet_potato", '🍠'), ("sweet_potato", '🍠'), ("dango", '🍡'), ("oden", '🍢'),
    ("sushi", '🍣'), ("fried_shrimp", '🍤'), ("fish_cake_with_swirl", '🍥'), ("fish_cake", '🍥'),
    ("soft_ice_cream", '🍦'), ("icecream", '🍦'), ("shaved_ice", '🍧'), ("ice_cream", '🍨'),
    ("doughnut", '🍩'), ("cookie", '🍪'), ("chocolate_bar", '🍫'), ("candy", '🍬'), ("lollipop", '🍭'),
    ("custard", '🍮'), ("honey_pot", '🍯'), ("shortcake", '🍰'), ("cake", '🍰'), ("bento_box", '🍱'),
    ("bento", '🍱'), ("pot_of_food", '🍲'), ("stew", '🍲'), ("cooking", '🍳'), ("egg", '🍳'),
    ("fork_and_knife", '🍴'), ("teacup_without_handle", '🍵'), ("tea", '🍵'), ("sake", '🍶'),
    ("wine_glass", '🍷'), ("cocktail_glass", '🍸'), ("cocktail", '🍸'), ("tropical_drink", '🍹'),
    ("beer_mug", '🍺'), ("beer", '🍺'), ("clinking_beer_mugs", '🍻'), ("beers", '🍻'),
    ("baby_bottle", '🍼'), ("fork_and_knife_with_plate", '🍽'), ("bottle_with_popping_cork", '🍾'),
    ("popcorn", '🍿'), ("ribbon", '🎀'), ("wrapped_gift", '🎁'), ("gift", '🎁'),
    ("birthday_cake", '🎂'), ("birthday", '🎂'), ("jack-o-lantern", '🎃'), ("jack_o_lantern", '🎃'),
    ("christmas_tree", '🎄'), ("santa_claus", '🎅'), ("santa", '🎅'), ("fireworks", '🎆'),
    ("sparkler", '🎇'), ("balloon", '🎈'), ("party_popper", '🎉'), ("tada", '🎉'),
    ("confetti_ball", '🎊'), ("tanabata_tree", '🎋'), ("crossed_flags", '🎌'),
    ("pine_decoration", '🎍'), ("bamboo", '🎍'), ("japanese_dolls", '🎎'), ("dolls", '🎎'),
    ("carp_streamer", '🎏'), ("flags", '🎏'), ("wind_chime", '🎐'), ("moon_viewing_ceremony", '🎑'),
    ("rice_scene", '🎑'), ("school_backpack", '🎒'), ("school_satchel", '🎒'),
    ("graduation_cap", '🎓'), ("mortar_board", '🎓'), ("military_medal", '🎖'),
    ("reminder_ribbon", '🎗'), ("studio_microphone", '🎙'), ("level_slider", '🎚'),
    ("control_knobs", '🎛'), ("film_frames", '🎞'), ("admission_tickets", '🎟'),
    ("carousel_horse", '🎠'), ("ferris_wheel", '🎡'), ("roller_coaster", '🎢'),
    ("fishing_pole", '🎣'), ("fishing_pole_and_fish", '🎣'), ("microphone", '🎤'),
    ("movie_camera", '🎥'), ("cinema", '🎦'), ("headphone", '🎧'), ("headphones", '🎧'),
    ("artist_palette", '🎨'), ("art", '🎨'), ("top_hat", '🎩'), ("tophat", '🎩'),
    ("circus_tent", '🎪'), ("ticket", '🎫'), ("clapper_board", '🎬'), ("clapper", '🎬'),
    ("performing_arts", '🎭'), ("video_game", '🎮'), ("direct_hit", '🎯'), ("dart", '🎯'),
    ("slot_machine", '🎰'), ("pool_8_ball", '🎱'), ("8ball", '🎱'), ("game_die", '🎲'),
    ("bowling", '🎳'), ("flower_playing_cards", '🎴'), ("musical_note", '🎵'),
    ("musical_notes", '🎶'), ("notes", '🎶'), ("saxophone", '🎷'), ("guitar", '🎸'),
    ("musical_keyboard", '🎹'), ("trumpet", '🎺'), ("violin", '🎻'), ("musical_score", '🎼'),
    ("running_shirt", '🎽'), ("running_shirt_with_sash", '🎽'), ("tennis", '🎾'), ("skis", '🎿'),
    ("ski", '🎿'), ("basketball", '🏀'), ("chequered_flag", '🏁'), ("checkered_flag", '🏁'),
    ("snowboarder", '🏂'), ("person_running", '🏃'), ("runner", '🏃'), ("running", '🏃'),
    ("person_surfing", '🏄'), ("surfer", '🏄'), ("sports_medal", '🏅'), ("trophy", '🏆'),
    ("horse_racing", '🏇'), ("american_football", '🏈'), ("football", '🏈'), ("rugby_football", '🏉'),
    ("person_swimming", '🏊'), ("swimmer", '🏊'), ("person_lifting_weights", '🏋'),
    ("weight_lifter", '🏋'), ("person_golfing", '🏌'), ("golfer", '🏌'), ("motorcycle", '🏍'),
    ("racing_motorcycle", '🏍'), ("racing_car", '🏎'), ("cricket_game", '🏏'),
    ("cricket_bat_and_ball", '🏏'), ("volleyball", '🏐'), ("field_hockey", '🏑'),
    ("field_hockey_stick_and_ball", '🏑'), ("ice_hockey", '🏒'), ("ice_hockey_stick_and_puck", '🏒'),
    ("ping_pong", '🏓'), ("table_tennis_paddle_and_ball", '🏓'), ("snow-capped_mountain", '🏔'),
    ("snow_capped_mountain", '🏔'), ("camping", '🏕'), ("beach_with_umbrella", '🏖'),
    ("building_construction", '🏗'), ("houses", '🏘'), ("house_buildings", '🏘'), ("cityscape", '🏙'),
    ("derelict_house", '🏚'), ("derelict_house_building", '🏚'), ("classical_building", '🏛'),
    ("desert", '🏜'), ("desert_island", '🏝'), ("national_park", '🏞'), ("stadium", '🏟'),
    ("house", '🏠'), ("house_with_garden", '🏡'), ("office_building", '🏢'), ("office", '🏢'),
    ("japanese_post_office", '🏣'), ("post_office", '🏣'), ("european_post_office", '🏤'),
    ("hospital", '🏥'), ("bank", '🏦'), ("atm_sign", '🏧'), ("atm", '🏧'), ("hotel", '🏨'),
    ("love_hotel", '🏩'), ("convenience_store", '🏪'), ("school", '🏫'), ("department_store", '🏬'),
    ("factory", '🏭'), ("red_paper_lantern", '🏮'), ("izakaya_lantern", '🏮'), ("lantern", '🏮'),
    ("japanese_castle", '🏯'), ("castle", '🏰'), ("european_castle", '🏰'), ("white_flag", '🏳'),
    ("waving_white_flag", '🏳'), ("black_flag", '🏴'), ("waving_black_flag", '🏴'), ("rosette", '🏵'),
    ("label", '🏷'), ("badminton", '🏸'), ("badminton_racquet_and_shuttlecock", '🏸'),
    ("bow_and_arrow", '🏹'), ("amphora", '🏺'), ("light_skin_tone", '🏻'),
    ("emoji_modifier_fitzpatrick_type__1__2", '🏻'), ("medium_light_skin_tone", '🏼'),
    ("emoji_modifier_fitzpatrick_type__3", '🏼'), ("medium_skin_tone", '🏽'),
    ("emoji_modifier_fitzpatrick_type__4", '🏽'), ("medium_dark_skin_tone", '🏾'),
    ("emoji_modifier_fitzpatrick_type__5", '🏾'), ("dark_skin_tone", '🏿'),
    ("emoji_modifier_fitzpatrick_type__6", '🏿')]

/-- Pictographs of vehicles and of signs, by name. -/
def travel : List (String × Char) :=
  [("rocket", '🚀'), ("helicopter", '🚁'), ("locomotive", '🚂'), ("steam_locomotive", '🚂'),
    ("railway_car", '🚃'), ("high-speed_train", '🚄'), ("bullettrain_side", '🚄'),
    ("bullet_train", '🚅'), ("bullettrain_front", '🚅'), ("train2", '🚆'), ("metro", '🚇'),
    ("light_rail", '🚈'), ("station", '🚉'), ("tram", '🚊'), ("train", '🚋'), ("tram_car", '🚋'),
    ("bus", '🚌'), ("oncoming_bus", '🚍'), ("trolleybus", '🚎'), ("bus_stop", '🚏'), ("busstop", '🚏'),
    ("minibus", '🚐'), ("ambulance", '🚑'), ("fire_engine", '🚒'), ("police_car", '🚓'),
    ("oncoming_police_car", '🚔'), ("taxi", '🚕'), ("oncoming_taxi", '🚖'), ("automobile", '🚗'),
    ("car", '🚗'), ("red_car", '🚗'), ("oncoming_automobile", '🚘'), ("sport_utility_vehicle", '🚙'),
    ("blue_car", '🚙'), ("delivery_truck", '🚚'), ("truck", '🚚'), ("articulated_lorry", '🚛'),
    ("tractor", '🚜'), ("monorail", '🚝'), ("mountain_railway", '🚞'), ("suspension_railway", '🚟'),
    ("mountain_cableway", '🚠'), ("aerial_tramway", '🚡'), ("ship", '🚢'),
    ("person_rowing_boat", '🚣'), ("rowboat", '🚣'), ("speedboat", '🚤'),
    ("horizontal_traffic_light", '🚥'), ("traffic_light", '🚥'), ("vertical_traffic_light", '🚦'),
    ("construction", '🚧'), ("police_car_light", '🚨'), ("rotating_light", '🚨'),
    ("triangular_flag", '🚩'), ("triangular_flag_on_post", '🚩'), ("door", '🚪'),
    ("prohibited", '🚫'), ("no_entry_sign", '🚫'), ("cigarette", '🚬'), ("smoking", '🚬'),
    ("no_smoking", '🚭'), ("litter_in_bin_sign", '🚮'), ("put_litter_in_its_place", '🚮'),
    ("no_littering", '🚯'), ("do_not_litter", '🚯'), ("potable_water", '🚰'),
    ("non-potable_water", '🚱'), ("non__potable_water", '🚱'), ("bicycle", '🚲'), ("bike", '🚲'),
    ("no_bicycles", '🚳'), ("person_biking", '🚴'), ("bicyclist", '🚴'),
    ("person_mountain_biking", '🚵'), ("mountain_bicyclist", '🚵'), ("person_walking", '🚶'),
    ("walking", '🚶'), ("no_pedestrians", '🚷'), ("children_crossing", '🚸'), ("men’s_room", '🚹'),
    ("mens", '🚹'), ("women’s_room", '🚺'), ("womens", '🚺'), ("restroom", '🚻'),
    ("baby_symbol", '🚼'), ("toilet", '🚽'), ("water_closet", '🚾'), ("wc", '🚾'), ("shower", '🚿'),
    ("person_taking_bath", '🛀'), ("bath", '🛀'), ("bathtub", '🛁'), ("passport_control", '🛂'),
    ("customs", '🛃'), ("baggage_claim", '🛄'), ("left_luggage", '🛅'), ("couch_and_lamp", '🛋'),
    ("person_in_bed", '🛌'), ("sleeping_accommodation", '🛌'), ("shopping_bags", '🛍'),
    ("bellhop_bell", '🛎'), ("bed", '🛏'), ("place_of_worship", '🛐'), ("stop_sign", '🛑'),
    ("shopping_cart", '🛒'), ("hindu_temple", '🛕'), ("hammer_and_wrench", '🛠'), ("shield", '🛡'),
    ("oil_drum", '🛢'), ("motorway", '🛣'), ("railway_track", '🛤'), ("motor_boat", '🛥'),
    ("small_airplane", '🛩'), ("airplane_departure", '🛫'), ("airplane_arrival", '🛬'),
    ("airplane_arriving", '🛬'), ("passenger_ship", '🛳'), ("kick_scooter", '🛴'),
    ("motor_scooter", '🛵'), ("canoe", '🛶'), ("sled", '🛷'), ("flying_saucer", '🛸'),
    ("skateboard", '🛹'), ("auto_rickshaw", '🛺')]

/-- The codes of the countries whose names may have the words in front. -/
def countries : List (String × String) :=
  [("afghanistan", "AF"), ("albania", "AL"), ("algeria", "DZ"), ("american_samoa", "AS"),
    ("andorra", "AD"), ("angola", "AO"), ("anguilla", "AI"), ("antarctica", "AQ"),
    ("antigua_&_barbuda", "AG"), ("argentina", "AR"), ("armenia", "AM"), ("aruba", "AW"),
    ("ascension_island", "AC"), ("australia", "AU"), ("austria", "AT"), ("azerbaijan", "AZ"),
    ("bahamas", "BS"), ("bahrain", "BH"), ("bangladesh", "BD"), ("barbados", "BB"),
    ("belarus", "BY"), ("belgium", "BE"), ("belize", "BZ"), ("benin", "BJ"), ("bermuda", "BM"),
    ("bhutan", "BT"), ("bolivia", "BO"), ("bosnia_&_herzegovina", "BA"), ("botswana", "BW"),
    ("bouvet_island", "BV"), ("brazil", "BR"), ("british_indian_ocean_territory", "IO"),
    ("british_virgin_islands", "VG"), ("brunei", "BN"), ("bulgaria", "BG"),
    ("burkina_faso", "BF"), ("burundi", "BI"), ("cambodia", "KH"), ("cameroon", "CM"),
    ("canada", "CA"), ("canary_islands", "IC"), ("cape_verde", "CV"),
    ("caribbean_netherlands", "BQ"), ("cayman_islands", "KY"), ("central_african_republic", "CF"),
    ("ceuta_&_melilla", "EA"), ("chad", "TD"), ("chile", "CL"), ("china", "CN"),
    ("christmas_island", "CX"), ("clipperton_island", "CP"), ("colombia", "CO"),
    ("comoros", "KM"), ("cook_islands", "CK"), ("costa_rica", "CR"), ("croatia", "HR"),
    ("cuba", "CU"), ("curaçao", "CW"), ("cyprus", "CY"), ("côte_d’ivoire", "CI"),
    ("denmark", "DK"), ("diego_garcia", "DG"), ("djibouti", "DJ"), ("dominica", "DM"),
    ("dominican_republic", "DO"), ("ecuador", "EC"), ("egypt", "EG"), ("el_salvador", "SV"),
    ("equatorial_guinea", "GQ"), ("eritrea", "ER"), ("estonia", "EE"), ("ethiopia", "ET"),
    ("european_union", "EU"), ("falkland_islands", "FK"), ("faroe_islands", "FO"), ("fiji", "FJ"),
    ("finland", "FI"), ("france", "FR"), ("french_guiana", "GF"), ("french_polynesia", "PF"),
    ("french_southern_territories", "TF"), ("gabon", "GA"), ("gambia", "GM"), ("georgia", "GE"),
    ("germany", "DE"), ("ghana", "GH"), ("gibraltar", "GI"), ("greece", "GR"),
    ("greenland", "GL"), ("grenada", "GD"), ("guadeloupe", "GP"), ("guam", "GU"),
    ("guatemala", "GT"), ("guernsey", "GG"), ("guinea", "GN"), ("guyana", "GY"), ("haiti", "HT"),
    ("heard_&_mcdonald_islands", "HM"), ("honduras", "HN"), ("hungary", "HU"), ("iceland", "IS"),
    ("india", "IN"), ("indonesia", "ID"), ("iran", "IR"), ("iraq", "IQ"), ("ireland", "IE"),
    ("isle_of_man", "IM"), ("israel", "IL"), ("italy", "IT"), ("jamaica", "JM"), ("jersey", "JE"),
    ("jordan", "JO"), ("kazakhstan", "KZ"), ("kenya", "KE"), ("kiribati", "KI"), ("kosovo", "XK"),
    ("kuwait", "KW"), ("kyrgyzstan", "KG"), ("laos", "LA"), ("latvia", "LV"), ("lebanon", "LB"),
    ("lesotho", "LS"), ("liberia", "LR"), ("libya", "LY"), ("liechtenstein", "LI"),
    ("lithuania", "LT"), ("luxembourg", "LU"), ("macedonia", "MK"), ("madagascar", "MG"),
    ("malawi", "MW"), ("malaysia", "MY"), ("maldives", "MV"), ("mali", "ML"), ("malta", "MT"),
    ("marshall_islands", "MH"), ("martinique", "MQ"), ("mauritania", "MR"), ("mauritius", "MU"),
    ("mayotte", "YT"), ("mexico", "MX"), ("micronesia", "FM"), ("moldova", "MD"),
    ("monaco", "MC"), ("mongolia", "MN"), ("montenegro", "ME"), ("montserrat", "MS"),
    ("morocco", "MA"), ("mozambique", "MZ"), ("namibia", "NA"), ("nauru", "NR"), ("nepal", "NP"),
    ("netherlands", "NL"), ("new_caledonia", "NC"), ("new_zealand", "NZ"), ("nicaragua", "NI"),
    ("niger", "NE"), ("nigeria", "NG"), ("niue", "NU"), ("norfolk_island", "NF"),
    ("north_korea", "KP"), ("northern_mariana_islands", "MP"), ("norway", "NO"), ("oman", "OM"),
    ("pakistan", "PK"), ("palau", "PW"), ("palestinian_territories", "PS"), ("panama", "PA"),
    ("papua_new_guinea", "PG"), ("paraguay", "PY"), ("peru", "PE"), ("philippines", "PH"),
    ("pitcairn_islands", "PN"), ("poland", "PL"), ("portugal", "PT"), ("puerto_rico", "PR"),
    ("qatar", "QA"), ("romania", "RO"), ("russia", "RU"), ("rwanda", "RW"), ("réunion", "RE"),
    ("samoa", "WS"), ("san_marino", "SM"), ("saudi_arabia", "SA"), ("senegal", "SN"),
    ("serbia", "RS"), ("seychelles", "SC"), ("sierra_leone", "SL"), ("singapore", "SG"),
    ("sint_maarten", "SX"), ("slovakia", "SK"), ("slovenia", "SI"), ("solomon_islands", "SB"),
    ("somalia", "SO"), ("south_africa", "ZA"), ("south_georgia_&_south_sandwich_islands", "GS"),
    ("south_korea", "KR"), ("south_sudan", "SS"), ("spain", "ES"), ("sri_lanka", "LK"),
    ("st._barthélemy", "BL"), ("st._helena", "SH"), ("st._kitts_&_nevis", "KN"),
    ("st._lucia", "LC"), ("st._martin", "MF"), ("st._pierre_&_miquelon", "PM"),
    ("st._vincent_&_grenadines", "VC"), ("sudan", "SD"), ("suriname", "SR"),
    ("svalbard_&_jan_mayen", "SJ"), ("swaziland", "SZ"), ("sweden", "SE"), ("switzerland", "CH"),
    ("syria", "SY"), ("são_tomé_&_príncipe", "ST"), ("taiwan", "TW"), ("tajikistan", "TJ"),
    ("tanzania", "TZ"), ("thailand", "TH"), ("togo", "TG"), ("tokelau", "TK"), ("tonga", "TO"),
    ("trinidad_&_tobago", "TT"), ("tristan_da_cunha", "TA"), ("tunisia", "TN"),
    ("turkmenistan", "TM"), ("turks_&_caicos_islands", "TC"), ("tuvalu", "TV"),
    ("u.s._outlying_islands", "UM"), ("u.s._virgin_islands", "VI"), ("uganda", "UG"),
    ("ukraine", "UA"), ("united_arab_emirates", "AE"), ("united_kingdom", "GB"),
    ("united_states", "US"), ("uruguay", "UY"), ("uzbekistan", "UZ"), ("vanuatu", "VU"),
    ("vatican_city", "VA"), ("venezuela", "VE"), ("vietnam", "VN"), ("wallis_&_futuna", "WF"),
    ("western_sahara", "EH"), ("yemen", "YE"), ("zambia", "ZM"), ("zimbabwe", "ZW"),
    ("åland_islands", "AX")]

/-- The codes of the countries whose names have no words in front. -/
def countriesAlone : List (String × String) :=
  [("cocos_(keeling)_islands", "CC"), ("congo_-_brazzaville", "CG"), ("congo_-_kinshasa", "CD"),
    ("czechia", "CZ"), ("guinea-bissau", "GW"), ("hong_kong_sar_china", "HK"),
    ("macau_sar_china", "MO"), ("myanmar_(burma)", "MM"), ("timor-leste", "TL"),
    ("united_nations", "UN")]

/-- The codes of the countries whose names have the words in front. -/
def countriesInFull : List (String × String) :=
  [("cocos__islands", "CC"), ("congo____brazzaville", "CG"), ("congo____kinshasa", "CD"),
    ("czech_republic", "CZ"), ("guinea__bissau", "GW"), ("hong_kong", "HK"), ("japan", "JP"),
    ("macau", "MO"), ("myanmar", "MM"), ("timor__leste", "TL"), ("turkey", "TR")]

/-- A capital letter as a part of a flag. -/
def flagLetter (c : Char) : Char :=
  Char.ofNat (c.toNat - 'A'.toNat + 0x1F1E6)

/-- The words in front of the name of a country. -/
def flagWords : String := "flag_for_"

/-- The code of the country that a flag is named for. -/
def flagCode? (name : String) : Option String :=
  if flagWords.toList.isPrefixOf name.toList then
    (countries ++ countriesInFull).lookup (String.ofList (name.toList.drop flagWords.length))
  else (countries ++ countriesAlone).lookup name

/-- The flag with a name. -/
def flag? (name : String) : Option (List Char) :=
  (flagCode? name).map fun code => code.toList.map flagLetter

end Letterpress.Text.Emoji
