/-!
# Names of Symbols

Arrows, signs, and the few pictographs that stand among them; letters and words in boxes and
circles, the letters that flags are made of, and tiles.

## Main definitions

* `symbols`, `enclosedLetters`: The pictographs with their names.
-/

namespace Letterpress.Text.Emoji

/-- The symbols outside the blocks of pictographs, by name. -/
def symbols : List (String × Char) :=
  [("copyright", '©'), ("registered", '®'), ("double_exclamation_mark", '‼'), ("bangbang", '‼'),
    ("exclamation_question_mark", '⁉'), ("interrobang", '⁉'), ("trade_mark", '™'), ("tm", '™'),
    ("information", 'ℹ'), ("information_source", 'ℹ'), ("left-right_arrow", '↔'),
    ("left_right_arrow", '↔'), ("up-down_arrow", '↕'), ("arrow_up_down", '↕'),
    ("up-left_arrow", '↖'), ("arrow_upper_left", '↖'), ("up-right_arrow", '↗'),
    ("arrow_upper_right", '↗'), ("down-right_arrow", '↘'), ("arrow_lower_right", '↘'),
    ("down-left_arrow", '↙'), ("arrow_lower_left", '↙'), ("right_arrow_curving_left", '↩'),
    ("leftwards_arrow_with_hook", '↩'), ("left_arrow_curving_right", '↪'),
    ("arrow_right_hook", '↪'), ("watch", '⌚'), ("hourglass_done", '⌛'), ("hourglass", '⌛'),
    ("keyboard", '⌨'), ("helm_symbol", '⎈'), ("eject_button", '⏏'), ("eject_symbol", '⏏'),
    ("fast-forward_button", '⏩'), ("fast_forward", '⏩'), ("fast_reverse_button", '⏪'),
    ("rewind", '⏪'), ("fast_up_button", '⏫'), ("arrow_double_up", '⏫'), ("fast_down_button", '⏬'),
    ("arrow_double_down", '⏬'), ("next_track_button", '⏭'),
    ("black_right__pointing_double_triangle_with_vertical_bar", '⏭'), ("last_track_button", '⏮'),
    ("black_left__pointing_double_triangle_with_vertical_bar", '⏮'),
    ("play_or_pause_button", '⏯'),
    ("black_right__pointing_triangle_with_double_vertical_bar", '⏯'), ("alarm_clock", '⏰'),
    ("stopwatch", '⏱'), ("timer_clock", '⏲'), ("hourglass_not_done", '⏳'),
    ("hourglass_flowing_sand", '⏳'), ("pause_button", '⏸'), ("double_vertical_bar", '⏸'),
    ("stop_button", '⏹'), ("black_square_for_stop", '⏹'), ("record_button", '⏺'),
    ("black_circle_for_record", '⏺'), ("circled_m", 'Ⓜ'), ("m", 'Ⓜ'), ("black_small_square", '▪'),
    ("white_small_square", '▫'), ("play_button", '▶'), ("arrow_forward", '▶'),
    ("reverse_button", '◀'), ("arrow_backward", '◀'), ("white_medium_square", '◻'),
    ("black_medium_square", '◼'), ("white_medium-small_square", '◽'),
    ("white_medium_small_square", '◽'), ("black_medium-small_square", '◾'),
    ("black_medium_small_square", '◾'), ("sun", '☀'), ("sunny", '☀'), ("cloud", '☁'),
    ("umbrella", '☂'), ("snowman", '☃'), ("comet", '☄'), ("telephone", '☎'), ("phone", '☎'),
    ("ballot_box_with_check", '☑'), ("umbrella_with_rain_drops", '☔'), ("hot_beverage", '☕'),
    ("coffee", '☕'), ("shamrock", '☘'), ("index_pointing_up", '☝'), ("point_up", '☝'),
    ("skull_and_crossbones", '☠'), ("radioactive", '☢'), ("radioactive_sign", '☢'),
    ("biohazard", '☣'), ("biohazard_sign", '☣'), ("orthodox_cross", '☦'),
    ("star_and_crescent", '☪'), ("peace_symbol", '☮'), ("yin_yang", '☯'),
    ("wheel_of_dharma", '☸'), ("frowning_face", '☹'), ("white_frowning_face", '☹'),
    ("smiling_face", '☺'), ("relaxed", '☺'), ("female_sign", '♀'), ("male_sign", '♂'),
    ("aries", '♈'), ("taurus", '♉'), ("gemini", '♊'), ("cancer", '♋'), ("leo", '♌'),
    ("virgo", '♍'), ("libra", '♎'), ("scorpio", '♏'), ("scorpius", '♏'), ("sagittarius", '♐'),
    ("capricorn", '♑'), ("aquarius", '♒'), ("pisces", '♓'), ("chess_pawn", '♟'),
    ("spade_suit", '♠'), ("spades", '♠'), ("club_suit", '♣'), ("clubs", '♣'), ("heart_suit", '♥'),
    ("hearts", '♥'), ("diamond_suit", '♦'), ("diamonds", '♦'), ("hot_springs", '♨'),
    ("hotsprings", '♨'), ("recycling_symbol", '♻'), ("recycle", '♻'), ("infinity", '♾'),
    ("wheelchair_symbol", '♿'), ("wheelchair", '♿'), ("hammer_and_pick", '⚒'), ("anchor", '⚓'),
    ("crossed_swords", '⚔'), ("medical_symbol", '⚕'), ("balance_scale", '⚖'), ("scales", '⚖'),
    ("alembic", '⚗'), ("gear", '⚙'), ("atom_symbol", '⚛'), ("fleur-de-lis", '⚜'),
    ("fleur__de__lis", '⚜'), ("warning", '⚠'), ("high_voltage", '⚡'), ("zap", '⚡'),
    ("white_circle", '⚪'), ("black_circle", '⚫'), ("coffin", '⚰'), ("funeral_urn", '⚱'),
    ("soccer_ball", '⚽'), ("soccer", '⚽'), ("baseball", '⚾'), ("snowman_without_snow", '⛄'),
    ("sun_behind_cloud", '⛅'), ("partly_sunny", '⛅'), ("cloud_with_lightning_and_rain", '⛈'),
    ("thunder_cloud_and_rain", '⛈'), ("ophiuchus", '⛎'), ("pick", '⛏'),
    ("rescue_worker’s_helmet", '⛑'), ("helmet_with_white_cross", '⛑'), ("chains", '⛓'),
    ("no_entry", '⛔'), ("shinto_shrine", '⛩'), ("church", '⛪'), ("mountain", '⛰'),
    ("umbrella_on_ground", '⛱'), ("fountain", '⛲'), ("flag_in_hole", '⛳'), ("golf", '⛳'),
    ("ferry", '⛴'), ("sailboat", '⛵'), ("boat", '⛵'), ("skier", '⛷'), ("ice_skate", '⛸'),
    ("person_bouncing_ball", '⛹'), ("person_with_ball", '⛹'), ("tent", '⛺'), ("fuel_pump", '⛽'),
    ("fuelpump", '⛽'), ("scissors", '✂'), ("white_heavy_check_mark", '✅'),
    ("white_check_mark", '✅'), ("airplane", '✈'), ("envelope", '✉'), ("email", '✉'),
    ("raised_fist", '✊'), ("fist", '✊'), ("raised_hand", '✋'), ("hand", '✋'),
    ("victory_hand", '✌'), ("v", '✌'), ("writing_hand", '✍'), ("pencil2", '✏'),
    ("black_nib", '✒'), ("heavy_check_mark", '✔'), ("heavy_multiplication_x", '✖'),
    ("latin_cross", '✝'), ("star_of_david", '✡'), ("sparkles", '✨'),
    ("eight-spoked_asterisk", '✳'), ("eight_spoked_asterisk", '✳'), ("eight-pointed_star", '✴'),
    ("eight_pointed_black_star", '✴'), ("snowflake", '❄'), ("sparkle", '❇'), ("cross_mark", '❌'),
    ("x", '❌'), ("cross_mark_button", '❎'), ("negative_squared_cross_mark", '❎'),
    ("question_mark", '❓'), ("question", '❓'), ("white_question_mark", '❔'),
    ("grey_question", '❔'), ("white_exclamation_mark", '❕'), ("grey_exclamation", '❕'),
    ("exclamation_mark", '❗'), ("exclamation", '❗'), ("heavy_exclamation_mark", '❗'),
    ("heavy_heart_exclamation", '❣'), ("heavy_heart_exclamation_mark_ornament", '❣'),
    ("red_heart", '❤'), ("heart", '❤'), ("heavy_plus_sign", '➕'), ("heavy_minus_sign", '➖'),
    ("heavy_division_sign", '➗'), ("right_arrow", '➡'), ("arrow_right", '➡'), ("curly_loop", '➰'),
    ("double_curly_loop", '➿'), ("loop", '➿'), ("right_arrow_curving_up", '⤴'),
    ("arrow_heading_up", '⤴'), ("right_arrow_curving_down", '⤵'), ("arrow_heading_down", '⤵'),
    ("left_arrow", '⬅'), ("arrow_left", '⬅'), ("up_arrow", '⬆'), ("arrow_up", '⬆'),
    ("down_arrow", '⬇'), ("arrow_down", '⬇'), ("black_large_square", '⬛'),
    ("white_large_square", '⬜'), ("white_medium_star", '⭐'), ("star", '⭐'),
    ("heavy_large_circle", '⭕'), ("o", '⭕'), ("wavy_dash", '〰'), ("part_alternation_mark", '〽'),
    ("japanese_congratulations_button", '㊗'), ("congratulations", '㊗'),
    ("japanese_secret_button", '㊙'), ("secret", '㊙')]

/-- Letters and words in frames, and tiles, by name. -/
def enclosedLetters : List (String × Char) :=
  [("mahjong_red_dragon", '🀄'), ("mahjong", '🀄'), ("joker", '🃏'), ("black_joker", '🃏'),
    ("a_button_(blood_type)", '🅰'), ("a", '🅰'), ("b_button_(blood_type)", '🅱'), ("b", '🅱'),
    ("o_button_(blood_type)", '🅾'), ("o2", '🅾'), ("p_button", '🅿'), ("parking", '🅿'),
    ("ab_button_(blood_type)", '🆎'), ("ab", '🆎'), ("cl_button", '🆑'), ("cl", '🆑'),
    ("cool_button", '🆒'), ("cool", '🆒'), ("free_button", '🆓'), ("free", '🆓'), ("id_button", '🆔'),
    ("id", '🆔'), ("new_button", '🆕'), ("new", '🆕'), ("ng_button", '🆖'), ("ng", '🆖'),
    ("ok_button", '🆗'), ("ok", '🆗'), ("sos_button", '🆘'), ("sos", '🆘'), ("up!_button", '🆙'),
    ("up", '🆙'), ("vs_button", '🆚'), ("vs", '🆚'), ("regional_indicator_symbol_letter_a", '🇦'),
    ("regional_indicator_a", '🇦'), ("regional_indicator_symbol_letter_b", '🇧'),
    ("regional_indicator_b", '🇧'), ("regional_indicator_symbol_letter_c", '🇨'),
    ("regional_indicator_c", '🇨'), ("regional_indicator_symbol_letter_d", '🇩'),
    ("regional_indicator_d", '🇩'), ("regional_indicator_symbol_letter_e", '🇪'),
    ("regional_indicator_e", '🇪'), ("regional_indicator_symbol_letter_f", '🇫'),
    ("regional_indicator_f", '🇫'), ("regional_indicator_symbol_letter_g", '🇬'),
    ("regional_indicator_g", '🇬'), ("regional_indicator_symbol_letter_h", '🇭'),
    ("regional_indicator_h", '🇭'), ("regional_indicator_symbol_letter_i", '🇮'),
    ("regional_indicator_i", '🇮'), ("regional_indicator_symbol_letter_j", '🇯'),
    ("regional_indicator_j", '🇯'), ("regional_indicator_symbol_letter_k", '🇰'),
    ("regional_indicator_k", '🇰'), ("regional_indicator_symbol_letter_l", '🇱'),
    ("regional_indicator_l", '🇱'), ("regional_indicator_symbol_letter_m", '🇲'),
    ("regional_indicator_m", '🇲'), ("regional_indicator_symbol_letter_n", '🇳'),
    ("regional_indicator_n", '🇳'), ("regional_indicator_symbol_letter_o", '🇴'),
    ("regional_indicator_o", '🇴'), ("regional_indicator_symbol_letter_p", '🇵'),
    ("regional_indicator_p", '🇵'), ("regional_indicator_symbol_letter_q", '🇶'),
    ("regional_indicator_q", '🇶'), ("regional_indicator_symbol_letter_r", '🇷'),
    ("regional_indicator_r", '🇷'), ("regional_indicator_symbol_letter_s", '🇸'),
    ("regional_indicator_s", '🇸'), ("regional_indicator_symbol_letter_t", '🇹'),
    ("regional_indicator_t", '🇹'), ("regional_indicator_symbol_letter_u", '🇺'),
    ("regional_indicator_u", '🇺'), ("regional_indicator_symbol_letter_v", '🇻'),
    ("regional_indicator_v", '🇻'), ("regional_indicator_symbol_letter_w", '🇼'),
    ("regional_indicator_w", '🇼'), ("regional_indicator_symbol_letter_x", '🇽'),
    ("regional_indicator_x", '🇽'), ("regional_indicator_symbol_letter_y", '🇾'),
    ("regional_indicator_y", '🇾'), ("regional_indicator_symbol_letter_z", '🇿'),
    ("regional_indicator_z", '🇿'), ("japanese_here_button", '🈁'), ("koko", '🈁'),
    ("japanese_service_charge_button", '🈂'), ("sa", '🈂'), ("japanese_free_of_charge_button", '🈚'),
    ("u7121", '🈚'), ("japanese_reserved_button", '🈯'), ("u6307", '🈯'),
    ("japanese_prohibited_button", '🈲'), ("u7981", '🈲'), ("japanese_vacancy_button", '🈳'),
    ("u7a7a", '🈳'), ("japanese_passing_grade_button", '🈴'), ("u5408", '🈴'),
    ("japanese_no_vacancy_button", '🈵'), ("u6e80", '🈵'),
    ("japanese_not_free_of_charge_button", '🈶'), ("u6709", '🈶'),
    ("japanese_monthly_amount_button", '🈷'), ("u6708", '🈷'), ("japanese_application_button", '🈸'),
    ("u7533", '🈸'), ("japanese_discount_button", '🈹'), ("u5272", '🈹'),
    ("japanese_open_for_business_button", '🈺'), ("u55b6", '🈺'), ("japanese_bargain_button", '🉐'),
    ("ideograph_advantage", '🉐'), ("japanese_acceptable_button", '🉑'), ("accept", '🉑')]

end Letterpress.Text.Emoji
