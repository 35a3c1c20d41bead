/-!
# Names of Sequences

Pictographs that several characters make up: families, people at work, keys, and the
flags of the parts of a country.

## Main definitions

* `sequences`: The sequences of code points with their names.
-/

namespace Letterpress.Text.Emoji

/-- Pictographs of several characters, as code points, by name. -/
def sequences : List (String × List Nat) :=
  [("keycap_number_sign", [0x23, 0x20E3]), ("keycap_#", [0x23, 0xFE0F, 0x20E3]),
    ("keycap_asterisk", [0x2A, 0x20E3]), ("keycap_*", [0x2A, 0xFE0F, 0x20E3]),
    ("keycap_digit_zero", [0x30, 0x20E3]), ("keycap_0", [0x30, 0xFE0F, 0x20E3]),
    ("zero", [0x30, 0xFE0F, 0x20E3]), ("keycap_digit_one", [0x31, 0x20E3]),
    ("keycap_1", [0x31, 0xFE0F, 0x20E3]), ("one", [0x31, 0xFE0F, 0x20E3]),
    ("keycap_digit_two", [0x32, 0x20E3]), ("keycap_2", [0x32, 0xFE0F, 0x20E3]),
    ("two", [0x32, 0xFE0F, 0x20E3]), ("keycap_digit_three", [0x33, 0x20E3]),
    ("keycap_3", [0x33, 0xFE0F, 0x20E3]), ("three", [0x33, 0xFE0F, 0x20E3]),
    ("keycap_digit_four", [0x34, 0x20E3]), ("keycap_4", [0x34, 0xFE0F, 0x20E3]),
    ("four", [0x34, 0xFE0F, 0x20E3]), ("keycap_digit_five", [0x35, 0x20E3]),
    ("keycap_5", [0x35, 0xFE0F, 0x20E3]), ("five", [0x35, 0xFE0F, 0x20E3]),
    ("keycap_digit_six", [0x36, 0x20E3]), ("keycap_6", [0x36, 0xFE0F, 0x20E3]),
    ("six", [0x36, 0xFE0F, 0x20E3]), ("keycap_digit_seven", [0x37, 0x20E3]),
    ("keycap_7", [0x37, 0xFE0F, 0x20E3]), ("seven", [0x37, 0xFE0F, 0x20E3]),
    ("keycap_digit_eight", [0x38, 0x20E3]), ("keycap_8", [0x38, 0xFE0F, 0x20E3]),
    ("eight", [0x38, 0xFE0F, 0x20E3]), ("keycap_digit_nine", [0x39, 0x20E3]),
    ("keycap_9", [0x39, 0xFE0F, 0x20E3]), ("nine", [0x39, 0xFE0F, 0x20E3]),
    ("woman_bouncing_ball", [0x26F9, 0xFE0F, 0x200D, 0x2640, 0xFE0F]),
    ("man_bouncing_ball", [0x26F9, 0xFE0F, 0x200D, 0x2642, 0xFE0F]),
    ("woman_running", [0x1F3C3, 0x200D, 0x2640, 0xFE0F]),
    ("man_running", [0x1F3C3, 0x200D, 0x2642, 0xFE0F]),
    ("woman_surfing", [0x1F3C4, 0x200D, 0x2640, 0xFE0F]),
    ("man_surfing", [0x1F3C4, 0x200D, 0x2642, 0xFE0F]),
    ("woman_swimming", [0x1F3CA, 0x200D, 0x2640, 0xFE0F]),
    ("man_swimming", [0x1F3CA, 0x200D, 0x2642, 0xFE0F]),
    ("woman_lifting_weights", [0x1F3CB, 0xFE0F, 0x200D, 0x2640, 0xFE0F]),
    ("man_lifting_weights", [0x1F3CB, 0xFE0F, 0x200D, 0x2642, 0xFE0F]),
    ("woman_golfing", [0x1F3CC, 0xFE0F, 0x200D, 0x2640, 0xFE0F]),
    ("man_golfing", [0x1F3CC, 0xFE0F, 0x200D, 0x2642, 0xFE0F]),
    ("rainbow_flag", [0x1F3F3, 0xFE0F, 0x200D, 0x1F308]),
    ("pirate_flag", [0x1F3F4, 0x200D, 0x2620, 0xFE0F]),
    ("england", [0x1F3F4, 0xE0067, 0xE0062, 0xE0065, 0xE006E, 0xE0067, 0xE007F]),
    ("scotland", [0x1F3F4, 0xE0067, 0xE0062, 0xE0073, 0xE0063, 0xE0074, 0xE007F]),
    ("wales", [0x1F3F4, 0xE0067, 0xE0062, 0xE0077, 0xE006C, 0xE0073, 0xE007F]),
    ("service_dog", [0x1F415, 0x200D, 0x1F9BA]),
    ("eye_in_speech_bubble", [0x1F441, 0xFE0F, 0x200D, 0x1F5E8, 0xFE0F]),
    ("man_health_worker", [0x1F468, 0x200D, 0x2695, 0xFE0F]),
    ("man_judge", [0x1F468, 0x200D, 0x2696, 0xFE0F]),
    ("man_pilot", [0x1F468, 0x200D, 0x2708, 0xFE0F]),
    ("couple_with_heart_man_man", [0x1F468, 0x200D, 0x2764, 0xFE0F, 0x200D, 0x1F468]),
    ("kiss_man_man", [0x1F468, 0x200D, 0x2764, 0xFE0F, 0x200D, 0x1F48B, 0x200D, 0x1F468]),
    ("man_farmer", [0x1F468, 0x200D, 0x1F33E]), ("man_cook", [0x1F468, 0x200D, 0x1F373]),
    ("man_student", [0x1F468, 0x200D, 0x1F393]), ("man_singer", [0x1F468, 0x200D, 0x1F3A4]),
    ("man_artist", [0x1F468, 0x200D, 0x1F3A8]), ("man_teacher", [0x1F468, 0x200D, 0x1F3EB]),
    ("man_factory_worker", [0x1F468, 0x200D, 0x1F3ED]),
    ("family_man_boy", [0x1F468, 0x200D, 0x1F466]),
    ("family_man_boy_boy", [0x1F468, 0x200D, 0x1F466, 0x200D, 0x1F466]),
    ("family_man_girl", [0x1F468, 0x200D, 0x1F467]),
    ("family_man_girl_boy", [0x1F468, 0x200D, 0x1F467, 0x200D, 0x1F466]),
    ("family_man_girl_girl", [0x1F468, 0x200D, 0x1F467, 0x200D, 0x1F467]),
    ("family_man_man_boy", [0x1F468, 0x200D, 0x1F468, 0x200D, 0x1F466]),
    ("family_man_man_boy_boy", [0x1F468, 0x200D, 0x1F468, 0x200D, 0x1F466, 0x200D, 0x1F466]),
    ("family_man_man_girl", [0x1F468, 0x200D, 0x1F468, 0x200D, 0x1F467]),
    ("family_man_man_girl_boy", [0x1F468, 0x200D, 0x1F468, 0x200D, 0x1F467, 0x200D, 0x1F466]),
    ("family_man_man_girl_girl", [0x1F468, 0x200D, 0x1F468, 0x200D, 0x1F467, 0x200D, 0x1F467]),
    ("family_man_woman_boy", [0x1F468, 0x200D, 0x1F469, 0x200D, 0x1F466]),
    ("family_man_woman_boy_boy", [0x1F468, 0x200D, 0x1F469, 0x200D, 0x1F466, 0x200D, 0x1F466]),
    ("family_man_woman_girl", [0x1F468, 0x200D, 0x1F469, 0x200D, 0x1F467]),
    ("family_man_woman_girl_boy", [0x1F468, 0x200D, 0x1F469, 0x200D, 0x1F467, 0x200D, 0x1F466]),
    ("family_man_woman_girl_girl", [0x1F468, 0x200D, 0x1F469, 0x200D, 0x1F467, 0x200D, 0x1F467]),
    ("man_technologist", [0x1F468, 0x200D, 0x1F4BB]),
    ("man_office_worker", [0x1F468, 0x200D, 0x1F4BC]),
    ("man_mechanic", [0x1F468, 0x200D, 0x1F527]), ("man_scientist", [0x1F468, 0x200D, 0x1F52C]),
    ("man_astronaut", [0x1F468, 0x200D, 0x1F680]),
    ("man_firefighter", [0x1F468, 0x200D, 0x1F692]),
    ("man_with_probing_cane", [0x1F468, 0x200D, 0x1F9AF]),
    ("red-haired_man", [0x1F468, 0x200D, 0x1F9B0]),
    ("curly-haired_man", [0x1F468, 0x200D, 0x1F9B1]), ("bald_man", [0x1F468, 0x200D, 0x1F9B2]),
    ("white-haired_man", [0x1F468, 0x200D, 0x1F9B3]),
    ("man_in_motorized_wheelchair", [0x1F468, 0x200D, 0x1F9BC]),
    ("man_in_manual_wheelchair", [0x1F468, 0x200D, 0x1F9BD]),
    ("woman_health_worker", [0x1F469, 0x200D, 0x2695, 0xFE0F]),
    ("woman_judge", [0x1F469, 0x200D, 0x2696, 0xFE0F]),
    ("woman_pilot", [0x1F469, 0x200D, 0x2708, 0xFE0F]),
    ("couple_with_heart_woman_man", [0x1F469, 0x200D, 0x2764, 0xFE0F, 0x200D, 0x1F468]),
    ("couple_with_heart_woman_woman", [0x1F469, 0x200D, 0x2764, 0xFE0F, 0x200D, 0x1F469]),
    ("kiss_woman_man", [0x1F469, 0x200D, 0x2764, 0xFE0F, 0x200D, 0x1F48B, 0x200D, 0x1F468]),
    ("kiss_woman_woman", [0x1F469, 0x200D, 0x2764, 0xFE0F, 0x200D, 0x1F48B, 0x200D, 0x1F469]),
    ("woman_farmer", [0x1F469, 0x200D, 0x1F33E]), ("woman_cook", [0x1F469, 0x200D, 0x1F373]),
    ("woman_student", [0x1F469, 0x200D, 0x1F393]), ("woman_singer", [0x1F469, 0x200D, 0x1F3A4]),
    ("woman_artist", [0x1F469, 0x200D, 0x1F3A8]), ("woman_teacher", [0x1F469, 0x200D, 0x1F3EB]),
    ("woman_factory_worker", [0x1F469, 0x200D, 0x1F3ED]),
    ("family_woman_boy", [0x1F469, 0x200D, 0x1F466]),
    ("family_woman_boy_boy", [0x1F469, 0x200D, 0x1F466, 0x200D, 0x1F466]),
    ("family_woman_girl", [0x1F469, 0x200D, 0x1F467]),
    ("family_woman_girl_boy", [0x1F469, 0x200D, 0x1F467, 0x200D, 0x1F466]),
    ("family_woman_girl_girl", [0x1F469, 0x200D, 0x1F467, 0x200D, 0x1F467]),
    ("family_woman_woman_boy", [0x1F469, 0x200D, 0x1F469, 0x200D, 0x1F466]),
    ("family_woman_woman_boy_boy", [0x1F469, 0x200D, 0x1F469, 0x200D, 0x1F466, 0x200D, 0x1F466]),
    ("family_woman_woman_girl", [0x1F469, 0x200D, 0x1F469, 0x200D, 0x1F467]),
    ("family_woman_woman_girl_boy", [0x1F469, 0x200D, 0x1F469, 0x200D, 0x1F467, 0x200D, 0x1F466]),
    ("family_woman_woman_girl_girl", [0x1F469, 0x200D, 0x1F469, 0x200D, 0x1F467, 0x200D, 0x1F467]),
    ("woman_technologist", [0x1F469, 0x200D, 0x1F4BB]),
    ("woman_office_worker", [0x1F469, 0x200D, 0x1F4BC]),
    ("woman_mechanic", [0x1F469, 0x200D, 0x1F527]),
    ("woman_scientist", [0x1F469, 0x200D, 0x1F52C]),
    ("woman_astronaut", [0x1F469, 0x200D, 0x1F680]),
    ("woman_firefighter", [0x1F469, 0x200D, 0x1F692]),
    ("woman_with_probing_cane", [0x1F469, 0x200D, 0x1F9AF]),
    ("red-haired_woman", [0x1F469, 0x200D, 0x1F9B0]),
    ("curly-haired_woman", [0x1F469, 0x200D, 0x1F9B1]),
    ("bald_woman", [0x1F469, 0x200D, 0x1F9B2]),
    ("white-haired_woman", [0x1F469, 0x200D, 0x1F9B3]),
    ("woman_in_motorized_wheelchair", [0x1F469, 0x200D, 0x1F9BC]),
    ("woman_in_manual_wheelchair", [0x1F469, 0x200D, 0x1F9BD]),
    ("woman_police_officer", [0x1F46E, 0x200D, 0x2640, 0xFE0F]),
    ("man_police_officer", [0x1F46E, 0x200D, 0x2642, 0xFE0F]),
    ("women_with_bunny_ears", [0x1F46F, 0x200D, 0x2640, 0xFE0F]),
    ("men_with_bunny_ears", [0x1F46F, 0x200D, 0x2642, 0xFE0F]),
    ("blond-haired_woman", [0x1F471, 0x200D, 0x2640, 0xFE0F]),
    ("blond-haired_man", [0x1F471, 0x200D, 0x2642, 0xFE0F]),
    ("woman_wearing_turban", [0x1F473, 0x200D, 0x2640, 0xFE0F]),
    ("man_wearing_turban", [0x1F473, 0x200D, 0x2642, 0xFE0F]),
    ("woman_construction_worker", [0x1F477, 0x200D, 0x2640, 0xFE0F]),
    ("man_construction_worker", [0x1F477, 0x200D, 0x2642, 0xFE0F]),
    ("woman_tipping_hand", [0x1F481, 0x200D, 0x2640, 0xFE0F]),
    ("man_tipping_hand", [0x1F481, 0x200D, 0x2642, 0xFE0F]),
    ("woman_guard", [0x1F482, 0x200D, 0x2640, 0xFE0F]),
    ("man_guard", [0x1F482, 0x200D, 0x2642, 0xFE0F]),
    ("woman_getting_massage", [0x1F486, 0x200D, 0x2640, 0xFE0F]),
    ("man_getting_massage", [0x1F486, 0x200D, 0x2642, 0xFE0F]),
    ("woman_getting_haircut", [0x1F487, 0x200D, 0x2640, 0xFE0F]),
    ("man_getting_haircut", [0x1F487, 0x200D, 0x2642, 0xFE0F]),
    ("woman_detective", [0x1F575, 0xFE0F, 0x200D, 0x2640, 0xFE0F]),
    ("man_detective", [0x1F575, 0xFE0F, 0x200D, 0x2642, 0xFE0F]),
    ("woman_gesturing_no", [0x1F645, 0x200D, 0x2640, 0xFE0F]),
    ("man_gesturing_no", [0x1F645, 0x200D, 0x2642, 0xFE0F]),
    ("woman_gesturing_ok", [0x1F646, 0x200D, 0x2640, 0xFE0F]),
    ("man_gesturing_ok", [0x1F646, 0x200D, 0x2642, 0xFE0F]),
    ("woman_bowing", [0x1F647, 0x200D, 0x2640, 0xFE0F]),
    ("man_bowing", [0x1F647, 0x200D, 0x2642, 0xFE0F]),
    ("woman_raising_hand", [0x1F64B, 0x200D, 0x2640, 0xFE0F]),
    ("man_raising_hand", [0x1F64B, 0x200D, 0x2642, 0xFE0F]),
    ("woman_frowning", [0x1F64D, 0x200D, 0x2640, 0xFE0F]),
    ("man_frowning", [0x1F64D, 0x200D, 0x2642, 0xFE0F]),
    ("woman_pouting", [0x1F64E, 0x200D, 0x2640, 0xFE0F]),
    ("man_pouting", [0x1F64E, 0x200D, 0x2642, 0xFE0F]),
    ("woman_rowing_boat", [0x1F6A3, 0x200D, 0x2640, 0xFE0F]),
    ("man_rowing_boat", [0x1F6A3, 0x200D, 0x2642, 0xFE0F]),
    ("woman_biking", [0x1F6B4, 0x200D, 0x2640, 0xFE0F]),
    ("man_biking", [0x1F6B4, 0x200D, 0x2642, 0xFE0F]),
    ("woman_mountain_biking", [0x1F6B5, 0x200D, 0x2640, 0xFE0F]),
    ("man_mountain_biking", [0x1F6B5, 0x200D, 0x2642, 0xFE0F]),
    ("woman_walking", [0x1F6B6, 0x200D, 0x2640, 0xFE0F]),
    ("man_walking", [0x1F6B6, 0x200D, 0x2642, 0xFE0F]),
    ("woman_facepalming", [0x1F926, 0x200D, 0x2640, 0xFE0F]),
    ("man_facepalming", [0x1F926, 0x200D, 0x2642, 0xFE0F]),
    ("woman_shrugging", [0x1F937, 0x200D, 0x2640, 0xFE0F]),
    ("man_shrugging", [0x1F937, 0x200D, 0x2642, 0xFE0F]),
    ("woman_cartwheeling", [0x1F938, 0x200D, 0x2640, 0xFE0F]),
    ("man_cartwheeling", [0x1F938, 0x200D, 0x2642, 0xFE0F]),
    ("woman_juggling", [0x1F939, 0x200D, 0x2640, 0xFE0F]),
    ("man_juggling", [0x1F939, 0x200D, 0x2642, 0xFE0F]),
    ("women_wrestling", [0x1F93C, 0x200D, 0x2640, 0xFE0F]),
    ("men_wrestling", [0x1F93C, 0x200D, 0x2642, 0xFE0F]),
    ("woman_playing_water_polo", [0x1F93D, 0x200D, 0x2640, 0xFE0F]),
    ("man_playing_water_polo", [0x1F93D, 0x200D, 0x2642, 0xFE0F]),
    ("woman_playing_handball", [0x1F93E, 0x200D, 0x2640, 0xFE0F]),
    ("man_playing_handball", [0x1F93E, 0x200D, 0x2642, 0xFE0F]),
    ("people_holding_hands", [0x1F9D1, 0x200D, 0x1F91D, 0x200D, 0x1F9D1]),
    ("woman_in_steamy_room", [0x1F9D6, 0x200D, 0x2640, 0xFE0F]),
    ("man_in_steamy_room", [0x1F9D6, 0x200D, 0x2642, 0xFE0F]),
    ("woman_climbing", [0x1F9D7, 0x200D, 0x2640, 0xFE0F]),
    ("man_climbing", [0x1F9D7, 0x200D, 0x2642, 0xFE0F]),
    ("woman_in_lotus_position", [0x1F9D8, 0x200D, 0x2640, 0xFE0F]),
    ("man_in_lotus_position", [0x1F9D8, 0x200D, 0x2642, 0xFE0F]),
    ("woman_mage", [0x1F9D9, 0x200D, 0x2640, 0xFE0F]),
    ("man_mage", [0x1F9D9, 0x200D, 0x2642, 0xFE0F]),
    ("woman_fairy", [0x1F9DA, 0x200D, 0x2640, 0xFE0F]),
    ("man_fairy", [0x1F9DA, 0x200D, 0x2642, 0xFE0F]),
    ("woman_vampire", [0x1F9DB, 0x200D, 0x2640, 0xFE0F]),
    ("man_vampire", [0x1F9DB, 0x200D, 0x2642, 0xFE0F]),
    ("mermaid", [0x1F9DC, 0x200D, 0x2640, 0xFE0F]), ("merman", [0x1F9DC, 0x200D, 0x2642, 0xFE0F]),
    ("woman_elf", [0x1F9DD, 0x200D, 0x2640, 0xFE0F]),
    ("man_elf", [0x1F9DD, 0x200D, 0x2642, 0xFE0F]),
    ("woman_genie", [0x1F9DE, 0x200D, 0x2640, 0xFE0F]),
    ("man_genie", [0x1F9DE, 0x200D, 0x2642, 0xFE0F]),
    ("woman_zombie", [0x1F9DF, 0x200D, 0x2640, 0xFE0F]),
    ("man_zombie", [0x1F9DF, 0x200D, 0x2642, 0xFE0F])]

end Letterpress.Text.Emoji
