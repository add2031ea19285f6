/-
The names of emoji that start with a character up to U+FFFF: signs, arrows and shapes.
-/

namespace CatchAudit.Text.EmojiName

/-- The signs, each with its names. -/
def symbols : String :=
"♒=aquarius ♈=aries ♋=cancer ♑=capricorn ♊=gemini
㊗=japanese_congratulations_button=congratulations ㊙=japanese_secret_button=secret ♌=leo ♎=libra
⛎=ophiuchus ♓=pisces ♐=sagittarius ♏=scorpio=scorpius ♉=taurus ♍=virgo ✈=airplane ⏰=alarm_clock
⚗=alembic ⚓=anchor ⚛=atom_symbol ⚖=balance_scale=scales ☑=ballot_box_with_check ⚾=baseball
☣=biohazard=biohazard_sign ⚫=black_circle ⬛=black_large_square
◾=black_medium-small_square=black_medium_small_square ◼=black_medium_square ✒=black_nib
▪=black_small_square ⛓=chains ♟=chess_pawn ⛪=church Ⓜ=circled_m=m ☁=cloud
⛈=cloud_with_lightning_and_rain=thunder_cloud_and_rain ♣=club_suit=clubs ⚰=coffin ☄=comet
©=copyright ❌=cross_mark=x ❎=cross_mark_button=negative_squared_cross_mark ⚔=crossed_swords
➰=curly_loop ♦=diamond_suit=diamonds ➿=double_curly_loop=loop ‼=double_exclamation_mark=bangbang
↙=down-left_arrow=arrow_lower_left ↘=down-right_arrow=arrow_lower_right ⬇=down_arrow=arrow_down
✴=eight-pointed_star=eight_pointed_black_star ✳=eight-spoked_asterisk=eight_spoked_asterisk
⏏=eject_button=eject_symbol ✉=envelope=email
❗=exclamation_mark=exclamation=heavy_exclamation_mark ⁉=exclamation_question_mark=interrobang
⏩=fast-forward_button=fast_forward ⏬=fast_down_button=arrow_double_down
⏪=fast_reverse_button=rewind ⏫=fast_up_button=arrow_double_up ♀=female_sign ⛴=ferry
⛳=flag_in_hole=golf ⚜=fleur-de-lis=fleur__de__lis ⛲=fountain ☹=frowning_face=white_frowning_face
⛽=fuel_pump=fuelpump ⚱=funeral_urn ⚙=gear ⚒=hammer_and_pick ♥=heart_suit=hearts
✔=heavy_check_mark ➗=heavy_division_sign
❣=heavy_heart_exclamation=heavy_heart_exclamation_mark_ornament ⭕=heavy_large_circle=o
➖=heavy_minus_sign ✖=heavy_multiplication_x ➕=heavy_plus_sign ⚡=high_voltage=zap
☕=hot_beverage=coffee ♨=hot_springs=hotsprings ⌛=hourglass_done=hourglass
⏳=hourglass_not_done=hourglass_flowing_sand ⛸=ice_skate ♾=infinity
ℹ=information=information_source ⌨=keyboard #️⃣=keycap_# *️⃣=keycap_* 0️⃣=keycap_0=zero
1️⃣=keycap_1=one 2️⃣=keycap_2=two 3️⃣=keycap_3=three 4️⃣=keycap_4=four 5️⃣=keycap_5=five
6️⃣=keycap_6=six 7️⃣=keycap_7=seven 8️⃣=keycap_8=eight 9️⃣=keycap_9=nine
⏮=last_track_button=black_left__pointing_double_triangle_with_vertical_bar ✝=latin_cross
↔=left-right_arrow=left_right_arrow ⬅=left_arrow=arrow_left
↪=left_arrow_curving_right=arrow_right_hook ♂=male_sign ⚕=medical_symbol ⛰=mountain
⏭=next_track_button=black_right__pointing_double_triangle_with_vertical_bar ⛔=no_entry
☦=orthodox_cross 〽=part_alternation_mark ⏸=pause_button=double_vertical_bar ☮=peace_symbol
⛏=pick ▶=play_button=arrow_forward
⏯=play_or_pause_button=black_right__pointing_triangle_with_double_vertical_bar
❓=question_mark=question ☢=radioactive=radioactive_sign ⏺=record_button=black_circle_for_record
♻=recycling_symbol=recycle ❤=red_heart=heart ®=registered
⛑=rescue_worker’s_helmet=helmet_with_white_cross ◀=reverse_button=arrow_backward
➡=right_arrow=arrow_right ⤵=right_arrow_curving_down=arrow_heading_down
↩=right_arrow_curving_left=leftwards_arrow_with_hook ⤴=right_arrow_curving_up=arrow_heading_up
⛵=sailboat=boat ✂=scissors ☘=shamrock ⛩=shinto_shrine ⛷=skier ☠=skull_and_crossbones
☺=smiling_face=relaxed ❄=snowflake ☃=snowman ⛄=snowman_without_snow ⚽=soccer_ball=soccer
♠=spade_suit=spades ❇=sparkle ✨=sparkles ☪=star_and_crescent ✡=star_of_david
⏹=stop_button=black_square_for_stop ⏱=stopwatch ☀=sun=sunny ⛅=sun_behind_cloud=partly_sunny
☎=telephone=phone ⛺=tent ⏲=timer_clock ™=trade_mark=tm ☂=umbrella ⛱=umbrella_on_ground
☔=umbrella_with_rain_drops ↕=up-down_arrow=arrow_up_down ↖=up-left_arrow=arrow_upper_left
↗=up-right_arrow=arrow_upper_right ⬆=up_arrow=arrow_up ⚠=warning ⌚=watch 〰=wavy_dash
☸=wheel_of_dharma ♿=wheelchair_symbol=wheelchair ⚪=white_circle
❕=white_exclamation_mark=grey_exclamation ✅=white_heavy_check_mark=white_check_mark
⬜=white_large_square ◽=white_medium-small_square=white_medium_small_square ◻=white_medium_square
⭐=white_medium_star=star ❔=white_question_mark=grey_question ▫=white_small_square ☯=yin_yang
*⃣=keycap_asterisk 8⃣=keycap_digit_eight 5⃣=keycap_digit_five 4⃣=keycap_digit_four
9⃣=keycap_digit_nine 1⃣=keycap_digit_one 7⃣=keycap_digit_seven 6⃣=keycap_digit_six
3⃣=keycap_digit_three 2⃣=keycap_digit_two 0⃣=keycap_digit_zero #⃣=keycap_number_sign
⎈=helm_symbol ✏=pencil2 ⛹=person_with_ball ✊=fist ✋=hand ✌=v ☝=point_up"

end CatchAudit.Text.EmojiName
