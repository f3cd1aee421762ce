namespace PageScript.Console.Picture

/-!
# Names of pictures from `m` to `r`

Every name that may stand between colons, in alphabetical order under each heading, with
the picture that it stands for.
-/

/-- The pictures whose names start with `m` but not with `man_`. -/
def picturesUnderM : List (String × String) :=
  [("m", "\u24c2"), ("macau_sar_china", "🇲🇴"), ("macedonia", "🇲🇰"), ("madagascar", "🇲🇬"),
   ("mag", "🔍"), ("mag_right", "🔎"), ("mage", "🧙"), ("mage_dark_skin_tone", "🧙🏿"),
   ("mage_light_skin_tone", "🧙🏻"), ("mage_medium-dark_skin_tone", "🧙🏾"),
   ("mage_medium-light_skin_tone", "🧙🏼"), ("mage_medium_skin_tone", "🧙🏽"), ("magnet", "🧲"),
   ("magnifying_glass_tilted_left", "🔍"), ("magnifying_glass_tilted_right", "🔎"), ("mahjong", "🀄"),
   ("mahjong_red_dragon", "🀄"), ("mailbox", "📫"), ("mailbox_closed", "📪"),
   ("mailbox_with_mail", "📬"), ("mailbox_with_no_mail", "📭"), ("malawi", "🇲🇼"), ("malaysia", "🇲🇾"),
   ("maldives", "🇲🇻"), ("male_sign", "\u2642"), ("mali", "🇲🇱"), ("malta", "🇲🇹"), ("man", "👨"),
   ("mango", "🥭"), ("mans_shoe", "👞"), ("mantelpiece_clock", "🕰"), ("manual_wheelchair", "🦽"),
   ("man’s_shoe", "👞"), ("map_of_japan", "🗾"), ("maple_leaf", "🍁"), ("marshall_islands", "🇲🇭"),
   ("martial_arts_uniform", "🥋"), ("martinique", "🇲🇶"), ("mask", "😷"), ("massage", "💆"),
   ("mate", "🧉"), ("mauritania", "🇲🇷"), ("mauritius", "🇲🇺"), ("mayotte", "🇾🇹"),
   ("meat_on_bone", "🍖"), ("mechanical_arm", "🦾"), ("mechanical_leg", "🦿"),
   ("medical_symbol", "\u2695"), ("medium_dark_skin_tone", "🏾"), ("medium_light_skin_tone", "🏼"),
   ("medium_skin_tone", "🏽"), ("mega", "📣"), ("megaphone", "📣"), ("melon", "🍈"), ("memo", "📝"),
   ("men_with_bunny_ears", "👯\u200d\u2642\ufe0f"), ("men_wrestling", "🤼\u200d\u2642\ufe0f"),
   ("menorah", "🕎"), ("menorah_with_nine_branches", "🕎"), ("mens", "🚹"), ("men’s_room", "🚹"),
   ("mermaid", "🧜\u200d\u2640\ufe0f"), ("mermaid_dark_skin_tone", "🧜🏿\u200d\u2640\ufe0f"),
   ("mermaid_light_skin_tone", "🧜🏻\u200d\u2640\ufe0f"),
   ("mermaid_medium-dark_skin_tone", "🧜🏾\u200d\u2640\ufe0f"),
   ("mermaid_medium-light_skin_tone", "🧜🏼\u200d\u2640\ufe0f"),
   ("mermaid_medium_skin_tone", "🧜🏽\u200d\u2640\ufe0f"), ("merman", "🧜\u200d\u2642\ufe0f"),
   ("merman_dark_skin_tone", "🧜🏿\u200d\u2642\ufe0f"),
   ("merman_light_skin_tone", "🧜🏻\u200d\u2642\ufe0f"),
   ("merman_medium-dark_skin_tone", "🧜🏾\u200d\u2642\ufe0f"),
   ("merman_medium-light_skin_tone", "🧜🏼\u200d\u2642\ufe0f"),
   ("merman_medium_skin_tone", "🧜🏽\u200d\u2642\ufe0f"), ("merperson", "🧜"),
   ("merperson_dark_skin_tone", "🧜🏿"), ("merperson_light_skin_tone", "🧜🏻"),
   ("merperson_medium-dark_skin_tone", "🧜🏾"), ("merperson_medium-light_skin_tone", "🧜🏼"),
   ("merperson_medium_skin_tone", "🧜🏽"), ("metro", "🚇"), ("mexico", "🇲🇽"), ("microbe", "🦠"),
   ("micronesia", "🇫🇲"), ("microphone", "🎤"), ("microscope", "🔬"), ("middle_finger", "🖕"),
   ("middle_finger_dark_skin_tone", "🖕🏿"), ("middle_finger_light_skin_tone", "🖕🏻"),
   ("middle_finger_medium-dark_skin_tone", "🖕🏾"), ("middle_finger_medium-light_skin_tone", "🖕🏼"),
   ("middle_finger_medium_skin_tone", "🖕🏽"), ("military_medal", "🎖"), ("milky_way", "🌌"),
   ("minibus", "🚐"), ("minidisc", "💽"), ("moai", "🗿"), ("mobile_phone", "📱"),
   ("mobile_phone_off", "📴"), ("mobile_phone_with_arrow", "📲"), ("moldova", "🇲🇩"), ("monaco", "🇲🇨"),
   ("money-mouth_face", "🤑"), ("money__mouth_face", "🤑"), ("money_bag", "💰"),
   ("money_with_wings", "💸"), ("moneybag", "💰"), ("mongolia", "🇲🇳"), ("monkey", "🐒"),
   ("monkey_face", "🐵"), ("monorail", "🚝"), ("montenegro", "🇲🇪"), ("montserrat", "🇲🇸"),
   ("moon", "🌔"), ("moon_cake", "🥮"), ("moon_viewing_ceremony", "🎑"), ("morocco", "🇲🇦"),
   ("mortar_board", "🎓"), ("mosque", "🕌"), ("mosquito", "🦟"), ("motor_boat", "🛥"),
   ("motor_scooter", "🛵"), ("motorcycle", "🏍"), ("motorized_wheelchair", "🦼"), ("motorway", "🛣"),
   ("mount_fuji", "🗻"), ("mountain", "\u26f0"), ("mountain_bicyclist", "🚵"),
   ("mountain_cableway", "🚠"), ("mountain_railway", "🚞"), ("mouse", "🐭"), ("mouse2", "🐁"),
   ("mouse_face", "🐭"), ("mouth", "👄"), ("movie_camera", "🎥"), ("moyai", "🗿"), ("mozambique", "🇲🇿"),
   ("mrs._claus", "🤶"), ("mrs._claus_dark_skin_tone", "🤶🏿"), ("mrs._claus_light_skin_tone", "🤶🏻"),
   ("mrs._claus_medium-dark_skin_tone", "🤶🏾"), ("mrs._claus_medium-light_skin_tone", "🤶🏼"),
   ("mrs._claus_medium_skin_tone", "🤶🏽"), ("muscle", "💪"), ("mushroom", "🍄"),
   ("musical_keyboard", "🎹"), ("musical_note", "🎵"), ("musical_notes", "🎶"), ("musical_score", "🎼"),
   ("mute", "🔇"), ("muted_speaker", "🔇"), ("myanmar_(burma)", "🇲🇲")]

/-- The pictures of a man, whose names start with `man_`. -/
def picturesOfMan : List (String × String) :=
  [("man_and_woman_holding_hands", "👫"), ("man_artist", "👨\u200d🎨"),
   ("man_artist_dark_skin_tone", "👨🏿\u200d🎨"), ("man_artist_light_skin_tone", "👨🏻\u200d🎨"),
   ("man_artist_medium-dark_skin_tone", "👨🏾\u200d🎨"),
   ("man_artist_medium-light_skin_tone", "👨🏼\u200d🎨"), ("man_artist_medium_skin_tone", "👨🏽\u200d🎨"),
   ("man_astronaut", "👨\u200d🚀"), ("man_astronaut_dark_skin_tone", "👨🏿\u200d🚀"),
   ("man_astronaut_light_skin_tone", "👨🏻\u200d🚀"),
   ("man_astronaut_medium-dark_skin_tone", "👨🏾\u200d🚀"),
   ("man_astronaut_medium-light_skin_tone", "👨🏼\u200d🚀"),
   ("man_astronaut_medium_skin_tone", "👨🏽\u200d🚀"), ("man_biking", "🚴\u200d\u2642\ufe0f"),
   ("man_biking_dark_skin_tone", "🚴🏿\u200d\u2642\ufe0f"),
   ("man_biking_light_skin_tone", "🚴🏻\u200d\u2642\ufe0f"),
   ("man_biking_medium-dark_skin_tone", "🚴🏾\u200d\u2642\ufe0f"),
   ("man_biking_medium-light_skin_tone", "🚴🏼\u200d\u2642\ufe0f"),
   ("man_biking_medium_skin_tone", "🚴🏽\u200d\u2642\ufe0f"),
   ("man_bouncing_ball", "\u26f9\ufe0f\u200d\u2642\ufe0f"),
   ("man_bouncing_ball_dark_skin_tone", "\u26f9🏿\u200d\u2642\ufe0f"),
   ("man_bouncing_ball_light_skin_tone", "\u26f9🏻\u200d\u2642\ufe0f"),
   ("man_bouncing_ball_medium-dark_skin_tone", "\u26f9🏾\u200d\u2642\ufe0f"),
   ("man_bouncing_ball_medium-light_skin_tone", "\u26f9🏼\u200d\u2642\ufe0f"),
   ("man_bouncing_ball_medium_skin_tone", "\u26f9🏽\u200d\u2642\ufe0f"),
   ("man_bowing", "🙇\u200d\u2642\ufe0f"), ("man_bowing_dark_skin_tone", "🙇🏿\u200d\u2642\ufe0f"),
   ("man_bowing_light_skin_tone", "🙇🏻\u200d\u2642\ufe0f"),
   ("man_bowing_medium-dark_skin_tone", "🙇🏾\u200d\u2642\ufe0f"),
   ("man_bowing_medium-light_skin_tone", "🙇🏼\u200d\u2642\ufe0f"),
   ("man_bowing_medium_skin_tone", "🙇🏽\u200d\u2642\ufe0f"),
   ("man_cartwheeling", "🤸\u200d\u2642\ufe0f"),
   ("man_cartwheeling_dark_skin_tone", "🤸🏿\u200d\u2642\ufe0f"),
   ("man_cartwheeling_light_skin_tone", "🤸🏻\u200d\u2642\ufe0f"),
   ("man_cartwheeling_medium-dark_skin_tone", "🤸🏾\u200d\u2642\ufe0f"),
   ("man_cartwheeling_medium-light_skin_tone", "🤸🏼\u200d\u2642\ufe0f"),
   ("man_cartwheeling_medium_skin_tone", "🤸🏽\u200d\u2642\ufe0f"),
   ("man_climbing", "🧗\u200d\u2642\ufe0f"), ("man_climbing_dark_skin_tone", "🧗🏿\u200d\u2642\ufe0f"),
   ("man_climbing_light_skin_tone", "🧗🏻\u200d\u2642\ufe0f"),
   ("man_climbing_medium-dark_skin_tone", "🧗🏾\u200d\u2642\ufe0f"),
   ("man_climbing_medium-light_skin_tone", "🧗🏼\u200d\u2642\ufe0f"),
   ("man_climbing_medium_skin_tone", "🧗🏽\u200d\u2642\ufe0f"),
   ("man_construction_worker", "👷\u200d\u2642\ufe0f"),
   ("man_construction_worker_dark_skin_tone", "👷🏿\u200d\u2642\ufe0f"),
   ("man_construction_worker_light_skin_tone", "👷🏻\u200d\u2642\ufe0f"),
   ("man_construction_worker_medium-dark_skin_tone", "👷🏾\u200d\u2642\ufe0f"),
   ("man_construction_worker_medium-light_skin_tone", "👷🏼\u200d\u2642\ufe0f"),
   ("man_construction_worker_medium_skin_tone", "👷🏽\u200d\u2642\ufe0f"), ("man_cook", "👨\u200d🍳"),
   ("man_cook_dark_skin_tone", "👨🏿\u200d🍳"), ("man_cook_light_skin_tone", "👨🏻\u200d🍳"),
   ("man_cook_medium-dark_skin_tone", "👨🏾\u200d🍳"),
   ("man_cook_medium-light_skin_tone", "👨🏼\u200d🍳"), ("man_cook_medium_skin_tone", "👨🏽\u200d🍳"),
   ("man_dancing", "🕺"), ("man_dancing_dark_skin_tone", "🕺🏿"),
   ("man_dancing_light_skin_tone", "🕺🏻"), ("man_dancing_medium-dark_skin_tone", "🕺🏾"),
   ("man_dancing_medium-light_skin_tone", "🕺🏼"), ("man_dancing_medium_skin_tone", "🕺🏽"),
   ("man_dark_skin_tone", "👨🏿"), ("man_detective", "🕵\ufe0f\u200d\u2642\ufe0f"),
   ("man_detective_dark_skin_tone", "🕵🏿\u200d\u2642\ufe0f"),
   ("man_detective_light_skin_tone", "🕵🏻\u200d\u2642\ufe0f"),
   ("man_detective_medium-dark_skin_tone", "🕵🏾\u200d\u2642\ufe0f"),
   ("man_detective_medium-light_skin_tone", "🕵🏼\u200d\u2642\ufe0f"),
   ("man_detective_medium_skin_tone", "🕵🏽\u200d\u2642\ufe0f"), ("man_elf", "🧝\u200d\u2642\ufe0f"),
   ("man_elf_dark_skin_tone", "🧝🏿\u200d\u2642\ufe0f"),
   ("man_elf_light_skin_tone", "🧝🏻\u200d\u2642\ufe0f"),
   ("man_elf_medium-dark_skin_tone", "🧝🏾\u200d\u2642\ufe0f"),
   ("man_elf_medium-light_skin_tone", "🧝🏼\u200d\u2642\ufe0f"),
   ("man_elf_medium_skin_tone", "🧝🏽\u200d\u2642\ufe0f"), ("man_facepalming", "🤦\u200d\u2642\ufe0f"),
   ("man_facepalming_dark_skin_tone", "🤦🏿\u200d\u2642\ufe0f"),
   ("man_facepalming_light_skin_tone", "🤦🏻\u200d\u2642\ufe0f"),
   ("man_facepalming_medium-dark_skin_tone", "🤦🏾\u200d\u2642\ufe0f"),
   ("man_facepalming_medium-light_skin_tone", "🤦🏼\u200d\u2642\ufe0f"),
   ("man_facepalming_medium_skin_tone", "🤦🏽\u200d\u2642\ufe0f"), ("man_factory_worker", "👨\u200d🏭"),
   ("man_factory_worker_dark_skin_tone", "👨🏿\u200d🏭"),
   ("man_factory_worker_light_skin_tone", "👨🏻\u200d🏭"),
   ("man_factory_worker_medium-dark_skin_tone", "👨🏾\u200d🏭"),
   ("man_factory_worker_medium-light_skin_tone", "👨🏼\u200d🏭"),
   ("man_factory_worker_medium_skin_tone", "👨🏽\u200d🏭"), ("man_fairy", "🧚\u200d\u2642\ufe0f"),
   ("man_fairy_dark_skin_tone", "🧚🏿\u200d\u2642\ufe0f"),
   ("man_fairy_light_skin_tone", "🧚🏻\u200d\u2642\ufe0f"),
   ("man_fairy_medium-dark_skin_tone", "🧚🏾\u200d\u2642\ufe0f"),
   ("man_fairy_medium-light_skin_tone", "🧚🏼\u200d\u2642\ufe0f"),
   ("man_fairy_medium_skin_tone", "🧚🏽\u200d\u2642\ufe0f"), ("man_farmer", "👨\u200d🌾"),
   ("man_farmer_dark_skin_tone", "👨🏿\u200d🌾"), ("man_farmer_light_skin_tone", "👨🏻\u200d🌾"),
   ("man_farmer_medium-dark_skin_tone", "👨🏾\u200d🌾"),
   ("man_farmer_medium-light_skin_tone", "👨🏼\u200d🌾"), ("man_farmer_medium_skin_tone", "👨🏽\u200d🌾"),
   ("man_firefighter", "👨\u200d🚒"), ("man_firefighter_dark_skin_tone", "👨🏿\u200d🚒"),
   ("man_firefighter_light_skin_tone", "👨🏻\u200d🚒"),
   ("man_firefighter_medium-dark_skin_tone", "👨🏾\u200d🚒"),
   ("man_firefighter_medium-light_skin_tone", "👨🏼\u200d🚒"),
   ("man_firefighter_medium_skin_tone", "👨🏽\u200d🚒"), ("man_frowning", "🙍\u200d\u2642\ufe0f"),
   ("man_frowning_dark_skin_tone", "🙍🏿\u200d\u2642\ufe0f"),
   ("man_frowning_light_skin_tone", "🙍🏻\u200d\u2642\ufe0f"),
   ("man_frowning_medium-dark_skin_tone", "🙍🏾\u200d\u2642\ufe0f"),
   ("man_frowning_medium-light_skin_tone", "🙍🏼\u200d\u2642\ufe0f"),
   ("man_frowning_medium_skin_tone", "🙍🏽\u200d\u2642\ufe0f"), ("man_genie", "🧞\u200d\u2642\ufe0f"),
   ("man_gesturing_no", "🙅\u200d\u2642\ufe0f"),
   ("man_gesturing_no_dark_skin_tone", "🙅🏿\u200d\u2642\ufe0f"),
   ("man_gesturing_no_light_skin_tone", "🙅🏻\u200d\u2642\ufe0f"),
   ("man_gesturing_no_medium-dark_skin_tone", "🙅🏾\u200d\u2642\ufe0f"),
   ("man_gesturing_no_medium-light_skin_tone", "🙅🏼\u200d\u2642\ufe0f"),
   ("man_gesturing_no_medium_skin_tone", "🙅🏽\u200d\u2642\ufe0f"),
   ("man_gesturing_ok", "🙆\u200d\u2642\ufe0f"),
   ("man_gesturing_ok_dark_skin_tone", "🙆🏿\u200d\u2642\ufe0f"),
   ("man_gesturing_ok_light_skin_tone", "🙆🏻\u200d\u2642\ufe0f"),
   ("man_gesturing_ok_medium-dark_skin_tone", "🙆🏾\u200d\u2642\ufe0f"),
   ("man_gesturing_ok_medium-light_skin_tone", "🙆🏼\u200d\u2642\ufe0f"),
   ("man_gesturing_ok_medium_skin_tone", "🙆🏽\u200d\u2642\ufe0f"),
   ("man_getting_haircut", "💇\u200d\u2642\ufe0f"),
   ("man_getting_haircut_dark_skin_tone", "💇🏿\u200d\u2642\ufe0f"),
   ("man_getting_haircut_light_skin_tone", "💇🏻\u200d\u2642\ufe0f"),
   ("man_getting_haircut_medium-dark_skin_tone", "💇🏾\u200d\u2642\ufe0f"),
   ("man_getting_haircut_medium-light_skin_tone", "💇🏼\u200d\u2642\ufe0f"),
   ("man_getting_haircut_medium_skin_tone", "💇🏽\u200d\u2642\ufe0f"),
   ("man_getting_massage", "💆\u200d\u2642\ufe0f"),
   ("man_getting_massage_dark_skin_tone", "💆🏿\u200d\u2642\ufe0f"),
   ("man_getting_massage_light_skin_tone", "💆🏻\u200d\u2642\ufe0f"),
   ("man_getting_massage_medium-dark_skin_tone", "💆🏾\u200d\u2642\ufe0f"),
   ("man_getting_massage_medium-light_skin_tone", "💆🏼\u200d\u2642\ufe0f"),
   ("man_getting_massage_medium_skin_tone", "💆🏽\u200d\u2642\ufe0f"),
   ("man_golfing", "🏌\ufe0f\u200d\u2642\ufe0f"),
   ("man_golfing_dark_skin_tone", "🏌🏿\u200d\u2642\ufe0f"),
   ("man_golfing_light_skin_tone", "🏌🏻\u200d\u2642\ufe0f"),
   ("man_golfing_medium-dark_skin_tone", "🏌🏾\u200d\u2642\ufe0f"),
   ("man_golfing_medium-light_skin_tone", "🏌🏼\u200d\u2642\ufe0f"),
   ("man_golfing_medium_skin_tone", "🏌🏽\u200d\u2642\ufe0f"), ("man_guard", "💂\u200d\u2642\ufe0f"),
   ("man_guard_dark_skin_tone", "💂🏿\u200d\u2642\ufe0f"),
   ("man_guard_light_skin_tone", "💂🏻\u200d\u2642\ufe0f"),
   ("man_guard_medium-dark_skin_tone", "💂🏾\u200d\u2642\ufe0f"),
   ("man_guard_medium-light_skin_tone", "💂🏼\u200d\u2642\ufe0f"),
   ("man_guard_medium_skin_tone", "💂🏽\u200d\u2642\ufe0f"),
   ("man_health_worker", "👨\u200d\u2695\ufe0f"),
   ("man_health_worker_dark_skin_tone", "👨🏿\u200d\u2695\ufe0f"),
   ("man_health_worker_light_skin_tone", "👨🏻\u200d\u2695\ufe0f"),
   ("man_health_worker_medium-dark_skin_tone", "👨🏾\u200d\u2695\ufe0f"),
   ("man_health_worker_medium-light_skin_tone", "👨🏼\u200d\u2695\ufe0f"),
   ("man_health_worker_medium_skin_tone", "👨🏽\u200d\u2695\ufe0f"),
   ("man_in_business_suit_levitating", "🕴"), ("man_in_lotus_position", "🧘\u200d\u2642\ufe0f"),
   ("man_in_lotus_position_dark_skin_tone", "🧘🏿\u200d\u2642\ufe0f"),
   ("man_in_lotus_position_light_skin_tone", "🧘🏻\u200d\u2642\ufe0f"),
   ("man_in_lotus_position_medium-dark_skin_tone", "🧘🏾\u200d\u2642\ufe0f"),
   ("man_in_lotus_position_medium-light_skin_tone", "🧘🏼\u200d\u2642\ufe0f"),
   ("man_in_lotus_position_medium_skin_tone", "🧘🏽\u200d\u2642\ufe0f"),
   ("man_in_manual_wheelchair", "👨\u200d🦽"), ("man_in_motorized_wheelchair", "👨\u200d🦼"),
   ("man_in_steamy_room", "🧖\u200d\u2642\ufe0f"),
   ("man_in_steamy_room_dark_skin_tone", "🧖🏿\u200d\u2642\ufe0f"),
   ("man_in_steamy_room_light_skin_tone", "🧖🏻\u200d\u2642\ufe0f"),
   ("man_in_steamy_room_medium-dark_skin_tone", "🧖🏾\u200d\u2642\ufe0f"),
   ("man_in_steamy_room_medium-light_skin_tone", "🧖🏼\u200d\u2642\ufe0f"),
   ("man_in_steamy_room_medium_skin_tone", "🧖🏽\u200d\u2642\ufe0f"), ("man_in_suit_levitating", "🕴"),
   ("man_in_suit_levitating_dark_skin_tone", "🕴🏿"),
   ("man_in_suit_levitating_light_skin_tone", "🕴🏻"),
   ("man_in_suit_levitating_medium-dark_skin_tone", "🕴🏾"),
   ("man_in_suit_levitating_medium-light_skin_tone", "🕴🏼"),
   ("man_in_suit_levitating_medium_skin_tone", "🕴🏽"), ("man_in_tuxedo", "🤵"),
   ("man_in_tuxedo_dark_skin_tone", "🤵🏿"), ("man_in_tuxedo_light_skin_tone", "🤵🏻"),
   ("man_in_tuxedo_medium-dark_skin_tone", "🤵🏾"), ("man_in_tuxedo_medium-light_skin_tone", "🤵🏼"),
   ("man_in_tuxedo_medium_skin_tone", "🤵🏽"), ("man_judge", "👨\u200d\u2696\ufe0f"),
   ("man_judge_dark_skin_tone", "👨🏿\u200d\u2696\ufe0f"),
   ("man_judge_light_skin_tone", "👨🏻\u200d\u2696\ufe0f"),
   ("man_judge_medium-dark_skin_tone", "👨🏾\u200d\u2696\ufe0f"),
   ("man_judge_medium-light_skin_tone", "👨🏼\u200d\u2696\ufe0f"),
   ("man_judge_medium_skin_tone", "👨🏽\u200d\u2696\ufe0f"), ("man_juggling", "🤹\u200d\u2642\ufe0f"),
   ("man_juggling_dark_skin_tone", "🤹🏿\u200d\u2642\ufe0f"),
   ("man_juggling_light_skin_tone", "🤹🏻\u200d\u2642\ufe0f"),
   ("man_juggling_medium-dark_skin_tone", "🤹🏾\u200d\u2642\ufe0f"),
   ("man_juggling_medium-light_skin_tone", "🤹🏼\u200d\u2642\ufe0f"),
   ("man_juggling_medium_skin_tone", "🤹🏽\u200d\u2642\ufe0f"),
   ("man_lifting_weights", "🏋\ufe0f\u200d\u2642\ufe0f"),
   ("man_lifting_weights_dark_skin_tone", "🏋🏿\u200d\u2642\ufe0f"),
   ("man_lifting_weights_light_skin_tone", "🏋🏻\u200d\u2642\ufe0f"),
   ("man_lifting_weights_medium-dark_skin_tone", "🏋🏾\u200d\u2642\ufe0f"),
   ("man_lifting_weights_medium-light_skin_tone", "🏋🏼\u200d\u2642\ufe0f"),
   ("man_lifting_weights_medium_skin_tone", "🏋🏽\u200d\u2642\ufe0f"), ("man_light_skin_tone", "👨🏻"),
   ("man_mage", "🧙\u200d\u2642\ufe0f"), ("man_mage_dark_skin_tone", "🧙🏿\u200d\u2642\ufe0f"),
   ("man_mage_light_skin_tone", "🧙🏻\u200d\u2642\ufe0f"),
   ("man_mage_medium-dark_skin_tone", "🧙🏾\u200d\u2642\ufe0f"),
   ("man_mage_medium-light_skin_tone", "🧙🏼\u200d\u2642\ufe0f"),
   ("man_mage_medium_skin_tone", "🧙🏽\u200d\u2642\ufe0f"), ("man_mechanic", "👨\u200d🔧"),
   ("man_mechanic_dark_skin_tone", "👨🏿\u200d🔧"), ("man_mechanic_light_skin_tone", "👨🏻\u200d🔧"),
   ("man_mechanic_medium-dark_skin_tone", "👨🏾\u200d🔧"),
   ("man_mechanic_medium-light_skin_tone", "👨🏼\u200d🔧"),
   ("man_mechanic_medium_skin_tone", "👨🏽\u200d🔧"), ("man_medium-dark_skin_tone", "👨🏾"),
   ("man_medium-light_skin_tone", "👨🏼"), ("man_medium_skin_tone", "👨🏽"),
   ("man_mountain_biking", "🚵\u200d\u2642\ufe0f"),
   ("man_mountain_biking_dark_skin_tone", "🚵🏿\u200d\u2642\ufe0f"),
   ("man_mountain_biking_light_skin_tone", "🚵🏻\u200d\u2642\ufe0f"),
   ("man_mountain_biking_medium-dark_skin_tone", "🚵🏾\u200d\u2642\ufe0f"),
   ("man_mountain_biking_medium-light_skin_tone", "🚵🏼\u200d\u2642\ufe0f"),
   ("man_mountain_biking_medium_skin_tone", "🚵🏽\u200d\u2642\ufe0f"),
   ("man_office_worker", "👨\u200d💼"), ("man_office_worker_dark_skin_tone", "👨🏿\u200d💼"),
   ("man_office_worker_light_skin_tone", "👨🏻\u200d💼"),
   ("man_office_worker_medium-dark_skin_tone", "👨🏾\u200d💼"),
   ("man_office_worker_medium-light_skin_tone", "👨🏼\u200d💼"),
   ("man_office_worker_medium_skin_tone", "👨🏽\u200d💼"), ("man_pilot", "👨\u200d\u2708\ufe0f"),
   ("man_pilot_dark_skin_tone", "👨🏿\u200d\u2708\ufe0f"),
   ("man_pilot_light_skin_tone", "👨🏻\u200d\u2708\ufe0f"),
   ("man_pilot_medium-dark_skin_tone", "👨🏾\u200d\u2708\ufe0f"),
   ("man_pilot_medium-light_skin_tone", "👨🏼\u200d\u2708\ufe0f"),
   ("man_pilot_medium_skin_tone", "👨🏽\u200d\u2708\ufe0f"),
   ("man_playing_handball", "🤾\u200d\u2642\ufe0f"),
   ("man_playing_handball_dark_skin_tone", "🤾🏿\u200d\u2642\ufe0f"),
   ("man_playing_handball_light_skin_tone", "🤾🏻\u200d\u2642\ufe0f"),
   ("man_playing_handball_medium-dark_skin_tone", "🤾🏾\u200d\u2642\ufe0f"),
   ("man_playing_handball_medium-light_skin_tone", "🤾🏼\u200d\u2642\ufe0f"),
   ("man_playing_handball_medium_skin_tone", "🤾🏽\u200d\u2642\ufe0f"),
   ("man_playing_water_polo", "🤽\u200d\u2642\ufe0f"),
   ("man_playing_water_polo_dark_skin_tone", "🤽🏿\u200d\u2642\ufe0f"),
   ("man_playing_water_polo_light_skin_tone", "🤽🏻\u200d\u2642\ufe0f"),
   ("man_playing_water_polo_medium-dark_skin_tone", "🤽🏾\u200d\u2642\ufe0f"),
   ("man_playing_water_polo_medium-light_skin_tone", "🤽🏼\u200d\u2642\ufe0f"),
   ("man_playing_water_polo_medium_skin_tone", "🤽🏽\u200d\u2642\ufe0f"),
   ("man_police_officer", "👮\u200d\u2642\ufe0f"),
   ("man_police_officer_dark_skin_tone", "👮🏿\u200d\u2642\ufe0f"),
   ("man_police_officer_light_skin_tone", "👮🏻\u200d\u2642\ufe0f"),
   ("man_police_officer_medium-dark_skin_tone", "👮🏾\u200d\u2642\ufe0f"),
   ("man_police_officer_medium-light_skin_tone", "👮🏼\u200d\u2642\ufe0f"),
   ("man_police_officer_medium_skin_tone", "👮🏽\u200d\u2642\ufe0f"),
   ("man_pouting", "🙎\u200d\u2642\ufe0f"), ("man_pouting_dark_skin_tone", "🙎🏿\u200d\u2642\ufe0f"),
   ("man_pouting_light_skin_tone", "🙎🏻\u200d\u2642\ufe0f"),
   ("man_pouting_medium-dark_skin_tone", "🙎🏾\u200d\u2642\ufe0f"),
   ("man_pouting_medium-light_skin_tone", "🙎🏼\u200d\u2642\ufe0f"),
   ("man_pouting_medium_skin_tone", "🙎🏽\u200d\u2642\ufe0f"),
   ("man_raising_hand", "🙋\u200d\u2642\ufe0f"),
   ("man_raising_hand_dark_skin_tone", "🙋🏿\u200d\u2642\ufe0f"),
   ("man_raising_hand_light_skin_tone", "🙋🏻\u200d\u2642\ufe0f"),
   ("man_raising_hand_medium-dark_skin_tone", "🙋🏾\u200d\u2642\ufe0f"),
   ("man_raising_hand_medium-light_skin_tone", "🙋🏼\u200d\u2642\ufe0f"),
   ("man_raising_hand_medium_skin_tone", "🙋🏽\u200d\u2642\ufe0f"),
   ("man_rowing_boat", "🚣\u200d\u2642\ufe0f"),
   ("man_rowing_boat_dark_skin_tone", "🚣🏿\u200d\u2642\ufe0f"),
   ("man_rowing_boat_light_skin_tone", "🚣🏻\u200d\u2642\ufe0f"),
   ("man_rowing_boat_medium-dark_skin_tone", "🚣🏾\u200d\u2642\ufe0f"),
   ("man_rowing_boat_medium-light_skin_tone", "🚣🏼\u200d\u2642\ufe0f"),
   ("man_rowing_boat_medium_skin_tone", "🚣🏽\u200d\u2642\ufe0f"),
   ("man_running", "🏃\u200d\u2642\ufe0f"), ("man_running_dark_skin_tone", "🏃🏿\u200d\u2642\ufe0f"),
   ("man_running_light_skin_tone", "🏃🏻\u200d\u2642\ufe0f"),
   ("man_running_medium-dark_skin_tone", "🏃🏾\u200d\u2642\ufe0f"),
   ("man_running_medium-light_skin_tone", "🏃🏼\u200d\u2642\ufe0f"),
   ("man_running_medium_skin_tone", "🏃🏽\u200d\u2642\ufe0f"), ("man_scientist", "👨\u200d🔬"),
   ("man_scientist_dark_skin_tone", "👨🏿\u200d🔬"), ("man_scientist_light_skin_tone", "👨🏻\u200d🔬"),
   ("man_scientist_medium-dark_skin_tone", "👨🏾\u200d🔬"),
   ("man_scientist_medium-light_skin_tone", "👨🏼\u200d🔬"),
   ("man_scientist_medium_skin_tone", "👨🏽\u200d🔬"), ("man_shrugging", "🤷\u200d\u2642\ufe0f"),
   ("man_shrugging_dark_skin_tone", "🤷🏿\u200d\u2642\ufe0f"),
   ("man_shrugging_light_skin_tone", "🤷🏻\u200d\u2642\ufe0f"),
   ("man_shrugging_medium-dark_skin_tone", "🤷🏾\u200d\u2642\ufe0f"),
   ("man_shrugging_medium-light_skin_tone", "🤷🏼\u200d\u2642\ufe0f"),
   ("man_shrugging_medium_skin_tone", "🤷🏽\u200d\u2642\ufe0f"), ("man_singer", "👨\u200d🎤"),
   ("man_singer_dark_skin_tone", "👨🏿\u200d🎤"), ("man_singer_light_skin_tone", "👨🏻\u200d🎤"),
   ("man_singer_medium-dark_skin_tone", "👨🏾\u200d🎤"),
   ("man_singer_medium-light_skin_tone", "👨🏼\u200d🎤"), ("man_singer_medium_skin_tone", "👨🏽\u200d🎤"),
   ("man_student", "👨\u200d🎓"), ("man_student_dark_skin_tone", "👨🏿\u200d🎓"),
   ("man_student_light_skin_tone", "👨🏻\u200d🎓"), ("man_student_medium-dark_skin_tone", "👨🏾\u200d🎓"),
   ("man_student_medium-light_skin_tone", "👨🏼\u200d🎓"),
   ("man_student_medium_skin_tone", "👨🏽\u200d🎓"), ("man_surfing", "🏄\u200d\u2642\ufe0f"),
   ("man_surfing_dark_skin_tone", "🏄🏿\u200d\u2642\ufe0f"),
   ("man_surfing_light_skin_tone", "🏄🏻\u200d\u2642\ufe0f"),
   ("man_surfing_medium-dark_skin_tone", "🏄🏾\u200d\u2642\ufe0f"),
   ("man_surfing_medium-light_skin_tone", "🏄🏼\u200d\u2642\ufe0f"),
   ("man_surfing_medium_skin_tone", "🏄🏽\u200d\u2642\ufe0f"),
   ("man_swimming", "🏊\u200d\u2642\ufe0f"), ("man_swimming_dark_skin_tone", "🏊🏿\u200d\u2642\ufe0f"),
   ("man_swimming_light_skin_tone", "🏊🏻\u200d\u2642\ufe0f"),
   ("man_swimming_medium-dark_skin_tone", "🏊🏾\u200d\u2642\ufe0f"),
   ("man_swimming_medium-light_skin_tone", "🏊🏼\u200d\u2642\ufe0f"),
   ("man_swimming_medium_skin_tone", "🏊🏽\u200d\u2642\ufe0f"), ("man_teacher", "👨\u200d🏫"),
   ("man_teacher_dark_skin_tone", "👨🏿\u200d🏫"), ("man_teacher_light_skin_tone", "👨🏻\u200d🏫"),
   ("man_teacher_medium-dark_skin_tone", "👨🏾\u200d🏫"),
   ("man_teacher_medium-light_skin_tone", "👨🏼\u200d🏫"),
   ("man_teacher_medium_skin_tone", "👨🏽\u200d🏫"), ("man_technologist", "👨\u200d💻"),
   ("man_technologist_dark_skin_tone", "👨🏿\u200d💻"),
   ("man_technologist_light_skin_tone", "👨🏻\u200d💻"),
   ("man_technologist_medium-dark_skin_tone", "👨🏾\u200d💻"),
   ("man_technologist_medium-light_skin_tone", "👨🏼\u200d💻"),
   ("man_technologist_medium_skin_tone", "👨🏽\u200d💻"), ("man_tipping_hand", "💁\u200d\u2642\ufe0f"),
   ("man_tipping_hand_dark_skin_tone", "💁🏿\u200d\u2642\ufe0f"),
   ("man_tipping_hand_light_skin_tone", "💁🏻\u200d\u2642\ufe0f"),
   ("man_tipping_hand_medium-dark_skin_tone", "💁🏾\u200d\u2642\ufe0f"),
   ("man_tipping_hand_medium-light_skin_tone", "💁🏼\u200d\u2642\ufe0f"),
   ("man_tipping_hand_medium_skin_tone", "💁🏽\u200d\u2642\ufe0f"),
   ("man_vampire", "🧛\u200d\u2642\ufe0f"), ("man_vampire_dark_skin_tone", "🧛🏿\u200d\u2642\ufe0f"),
   ("man_vampire_light_skin_tone", "🧛🏻\u200d\u2642\ufe0f"),
   ("man_vampire_medium-dark_skin_tone", "🧛🏾\u200d\u2642\ufe0f"),
   ("man_vampire_medium-light_skin_tone", "🧛🏼\u200d\u2642\ufe0f"),
   ("man_vampire_medium_skin_tone", "🧛🏽\u200d\u2642\ufe0f"), ("man_walking", "🚶\u200d\u2642\ufe0f"),
   ("man_walking_dark_skin_tone", "🚶🏿\u200d\u2642\ufe0f"),
   ("man_walking_light_skin_tone", "🚶🏻\u200d\u2642\ufe0f"),
   ("man_walking_medium-dark_skin_tone", "🚶🏾\u200d\u2642\ufe0f"),
   ("man_walking_medium-light_skin_tone", "🚶🏼\u200d\u2642\ufe0f"),
   ("man_walking_medium_skin_tone", "🚶🏽\u200d\u2642\ufe0f"),
   ("man_wearing_turban", "👳\u200d\u2642\ufe0f"),
   ("man_wearing_turban_dark_skin_tone", "👳🏿\u200d\u2642\ufe0f"),
   ("man_wearing_turban_light_skin_tone", "👳🏻\u200d\u2642\ufe0f"),
   ("man_wearing_turban_medium-dark_skin_tone", "👳🏾\u200d\u2642\ufe0f"),
   ("man_wearing_turban_medium-light_skin_tone", "👳🏼\u200d\u2642\ufe0f"),
   ("man_wearing_turban_medium_skin_tone", "👳🏽\u200d\u2642\ufe0f"), ("man_with_chinese_cap", "👲"),
   ("man_with_chinese_cap_dark_skin_tone", "👲🏿"), ("man_with_chinese_cap_light_skin_tone", "👲🏻"),
   ("man_with_chinese_cap_medium-dark_skin_tone", "👲🏾"),
   ("man_with_chinese_cap_medium-light_skin_tone", "👲🏼"),
   ("man_with_chinese_cap_medium_skin_tone", "👲🏽"), ("man_with_gua_pi_mao", "👲"),
   ("man_with_probing_cane", "👨\u200d🦯"), ("man_with_turban", "👳"),
   ("man_zombie", "🧟\u200d\u2642\ufe0f")]

/-- The pictures whose names start with `n` or `o`. -/
def picturesUnderNToO : List (String × String) :=
  [("nail_care", "💅"), ("nail_polish", "💅"), ("nail_polish_dark_skin_tone", "💅🏿"),
   ("nail_polish_light_skin_tone", "💅🏻"), ("nail_polish_medium-dark_skin_tone", "💅🏾"),
   ("nail_polish_medium-light_skin_tone", "💅🏼"), ("nail_polish_medium_skin_tone", "💅🏽"),
   ("name_badge", "📛"), ("namibia", "🇳🇦"), ("national_park", "🏞"), ("nauru", "🇳🇷"),
   ("nauseated_face", "🤢"), ("nazar_amulet", "🧿"), ("necktie", "👔"),
   ("negative_squared_cross_mark", "\u274e"), ("nepal", "🇳🇵"), ("nerd_face", "🤓"),
   ("netherlands", "🇳🇱"), ("neutral_face", "😐"), ("new", "🆕"), ("new_button", "🆕"),
   ("new_caledonia", "🇳🇨"), ("new_moon", "🌑"), ("new_moon_face", "🌚"), ("new_moon_with_face", "🌚"),
   ("new_zealand", "🇳🇿"), ("newspaper", "📰"), ("next_track_button", "\u23ed"), ("ng", "🆖"),
   ("ng_button", "🆖"), ("nicaragua", "🇳🇮"), ("niger", "🇳🇪"), ("nigeria", "🇳🇬"),
   ("night_with_stars", "🌃"), ("nine", "\u0039\ufe0f\u20e3"), ("nine-thirty", "🕤"),
   ("nine_o’clock", "🕘"), ("niue", "🇳🇺"), ("no_bell", "🔕"), ("no_bicycles", "🚳"),
   ("no_entry", "\u26d4"), ("no_entry_sign", "🚫"), ("no_good", "🙅"), ("no_littering", "🚯"),
   ("no_mobile_phones", "📵"), ("no_mouth", "😶"), ("no_one_under_eighteen", "🔞"),
   ("no_pedestrians", "🚷"), ("no_smoking", "🚭"), ("non-potable_water", "🚱"),
   ("non__potable_water", "🚱"), ("norfolk_island", "🇳🇫"), ("north_korea", "🇰🇵"),
   ("northern_mariana_islands", "🇲🇵"), ("norway", "🇳🇴"), ("nose", "👃"),
   ("nose_dark_skin_tone", "👃🏿"), ("nose_light_skin_tone", "👃🏻"),
   ("nose_medium-dark_skin_tone", "👃🏾"), ("nose_medium-light_skin_tone", "👃🏼"),
   ("nose_medium_skin_tone", "👃🏽"), ("notebook", "📓"), ("notebook_with_decorative_cover", "📔"),
   ("notes", "🎶"), ("nut_and_bolt", "🔩"), ("o", "\u2b55"), ("o2", "🅾"),
   ("o_button_(blood_type)", "🅾"), ("ocean", "🌊"), ("octopus", "🐙"), ("oden", "🍢"), ("office", "🏢"),
   ("office_building", "🏢"), ("ogre", "👹"), ("oil_drum", "🛢"), ("ok", "🆗"), ("ok_button", "🆗"),
   ("ok_hand", "👌"), ("ok_hand_dark_skin_tone", "👌🏿"), ("ok_hand_light_skin_tone", "👌🏻"),
   ("ok_hand_medium-dark_skin_tone", "👌🏾"), ("ok_hand_medium-light_skin_tone", "👌🏼"),
   ("ok_hand_medium_skin_tone", "👌🏽"), ("ok_woman", "🙆"), ("old_key", "🗝"), ("old_man", "👴"),
   ("old_man_dark_skin_tone", "👴🏿"), ("old_man_light_skin_tone", "👴🏻"),
   ("old_man_medium-dark_skin_tone", "👴🏾"), ("old_man_medium-light_skin_tone", "👴🏼"),
   ("old_man_medium_skin_tone", "👴🏽"), ("old_woman", "👵"), ("old_woman_dark_skin_tone", "👵🏿"),
   ("old_woman_light_skin_tone", "👵🏻"), ("old_woman_medium-dark_skin_tone", "👵🏾"),
   ("old_woman_medium-light_skin_tone", "👵🏼"), ("old_woman_medium_skin_tone", "👵🏽"),
   ("older_adult", "🧓"), ("older_adult_dark_skin_tone", "🧓🏿"),
   ("older_adult_light_skin_tone", "🧓🏻"), ("older_adult_medium-dark_skin_tone", "🧓🏾"),
   ("older_adult_medium-light_skin_tone", "🧓🏼"), ("older_adult_medium_skin_tone", "🧓🏽"),
   ("older_man", "👴"), ("older_woman", "👵"), ("om", "🕉"), ("om_symbol", "🕉"), ("oman", "🇴🇲"),
   ("on", "🔛"), ("on!_arrow", "🔛"), ("oncoming_automobile", "🚘"), ("oncoming_bus", "🚍"),
   ("oncoming_fist", "👊"), ("oncoming_fist_dark_skin_tone", "👊🏿"),
   ("oncoming_fist_light_skin_tone", "👊🏻"), ("oncoming_fist_medium-dark_skin_tone", "👊🏾"),
   ("oncoming_fist_medium-light_skin_tone", "👊🏼"), ("oncoming_fist_medium_skin_tone", "👊🏽"),
   ("oncoming_police_car", "🚔"), ("oncoming_taxi", "🚖"), ("one", "\u0031\ufe0f\u20e3"),
   ("one-piece_swimsuit", "🩱"), ("one-thirty", "🕜"), ("one_o’clock", "🕐"), ("onion", "🧅"),
   ("open_book", "📖"), ("open_file_folder", "📂"), ("open_hands", "👐"),
   ("open_hands_dark_skin_tone", "👐🏿"), ("open_hands_light_skin_tone", "👐🏻"),
   ("open_hands_medium-dark_skin_tone", "👐🏾"), ("open_hands_medium-light_skin_tone", "👐🏼"),
   ("open_hands_medium_skin_tone", "👐🏽"), ("open_mailbox_with_lowered_flag", "📭"),
   ("open_mailbox_with_raised_flag", "📬"), ("open_mouth", "😮"), ("ophiuchus", "\u26ce"),
   ("optical_disk", "💿"), ("orange_book", "📙"), ("orange_circle", "🟠"), ("orange_heart", "🧡"),
   ("orange_square", "🟧"), ("orangutan", "🦧"), ("orthodox_cross", "\u2626"), ("otter", "🦦"),
   ("outbox_tray", "📤"), ("owl", "🦉"), ("ox", "🐂"), ("oyster", "🦪")]

/-- The pictures whose names start with `p` or `q` but not with `person_`. -/
def picturesUnderPToQ : List (String × String) :=
  [("p_button", "🅿"), ("package", "📦"), ("page_facing_up", "📄"), ("page_with_curl", "📃"),
   ("pager", "📟"), ("paintbrush", "🖌"), ("pakistan", "🇵🇰"), ("palau", "🇵🇼"),
   ("palestinian_territories", "🇵🇸"), ("palm_tree", "🌴"), ("palms_up_together", "🤲"),
   ("palms_up_together_dark_skin_tone", "🤲🏿"), ("palms_up_together_light_skin_tone", "🤲🏻"),
   ("palms_up_together_medium-dark_skin_tone", "🤲🏾"),
   ("palms_up_together_medium-light_skin_tone", "🤲🏼"), ("palms_up_together_medium_skin_tone", "🤲🏽"),
   ("panama", "🇵🇦"), ("pancakes", "🥞"), ("panda_face", "🐼"), ("paperclip", "📎"),
   ("papua_new_guinea", "🇵🇬"), ("paraguay", "🇵🇾"), ("parking", "🅿"), ("parrot", "🦜"),
   ("part_alternation_mark", "\u303d"), ("partly_sunny", "\u26c5"), ("party_popper", "🎉"),
   ("partying_face", "🥳"), ("passenger_ship", "🛳"), ("passport_control", "🛂"),
   ("pause_button", "\u23f8"), ("paw_prints", "🐾"), ("peace_symbol", "\u262e"), ("peach", "🍑"),
   ("peacock", "🦚"), ("peanuts", "🥜"), ("pear", "🍐"), ("pen", "🖊"), ("pencil", "📝"),
   ("pencil2", "\u270f"), ("penguin", "🐧"), ("pensive", "😔"), ("pensive_face", "😔"),
   ("people_holding_hands", "🧑\u200d🤝\u200d🧑"), ("people_with_bunny_ears", "👯"),
   ("people_wrestling", "🤼"), ("performing_arts", "🎭"), ("persevere", "😣"),
   ("persevering_face", "😣"), ("peru", "🇵🇪"), ("petri_dish", "🧫"), ("philippines", "🇵🇭"),
   ("phone", "\u260e"), ("pick", "\u26cf"), ("pie", "🥧"), ("pig", "🐷"), ("pig2", "🐖"),
   ("pig_face", "🐷"), ("pig_nose", "🐽"), ("pile_of_poo", "💩"), ("pill", "💊"),
   ("pinching_hand", "🤏"), ("pine_decoration", "🎍"), ("pineapple", "🍍"), ("ping_pong", "🏓"),
   ("pirate_flag", "🏴\u200d\u2620\ufe0f"), ("pisces", "\u2653"), ("pistol", "🔫"),
   ("pitcairn_islands", "🇵🇳"), ("pizza", "🍕"), ("place_of_worship", "🛐"), ("play_button", "\u25b6"),
   ("play_or_pause_button", "\u23ef"), ("pleading_face", "🥺"), ("point_down", "👇"),
   ("point_left", "👈"), ("point_right", "👉"), ("point_up", "\u261d"), ("point_up_2", "👆"),
   ("poland", "🇵🇱"), ("police_car", "🚓"), ("police_car_light", "🚨"), ("police_officer", "👮"),
   ("police_officer_dark_skin_tone", "👮🏿"), ("police_officer_light_skin_tone", "👮🏻"),
   ("police_officer_medium-dark_skin_tone", "👮🏾"), ("police_officer_medium-light_skin_tone", "👮🏼"),
   ("police_officer_medium_skin_tone", "👮🏽"), ("poodle", "🐩"), ("pool_8_ball", "🎱"), ("poop", "💩"),
   ("popcorn", "🍿"), ("portugal", "🇵🇹"), ("post_office", "🏣"), ("postal_horn", "📯"),
   ("postbox", "📮"), ("pot_of_food", "🍲"), ("potable_water", "🚰"), ("potato", "🥔"), ("pouch", "👝"),
   ("poultry_leg", "🍗"), ("pound", "💷"), ("pound_banknote", "💷"), ("pouting_cat", "😾"),
   ("pouting_cat_face", "😾"), ("pouting_face", "😡"), ("pray", "🙏"), ("prayer_beads", "📿"),
   ("pregnant_woman", "🤰"), ("pregnant_woman_dark_skin_tone", "🤰🏿"),
   ("pregnant_woman_light_skin_tone", "🤰🏻"), ("pregnant_woman_medium-dark_skin_tone", "🤰🏾"),
   ("pregnant_woman_medium-light_skin_tone", "🤰🏼"), ("pregnant_woman_medium_skin_tone", "🤰🏽"),
   ("pretzel", "🥨"), ("prince", "🤴"), ("prince_dark_skin_tone", "🤴🏿"),
   ("prince_light_skin_tone", "🤴🏻"), ("prince_medium-dark_skin_tone", "🤴🏾"),
   ("prince_medium-light_skin_tone", "🤴🏼"), ("prince_medium_skin_tone", "🤴🏽"), ("princess", "👸"),
   ("princess_dark_skin_tone", "👸🏿"), ("princess_light_skin_tone", "👸🏻"),
   ("princess_medium-dark_skin_tone", "👸🏾"), ("princess_medium-light_skin_tone", "👸🏼"),
   ("princess_medium_skin_tone", "👸🏽"), ("printer", "🖨"), ("probing_cane", "🦯"),
   ("prohibited", "🚫"), ("puerto_rico", "🇵🇷"), ("punch", "👊"), ("purple_circle", "🟣"),
   ("purple_heart", "💜"), ("purple_square", "🟪"), ("purse", "👛"), ("pushpin", "📌"),
   ("put_litter_in_its_place", "🚮"), ("qatar", "🇶🇦"), ("question", "\u2753"),
   ("question_mark", "\u2753")]

/-- The pictures of a person, whose names start with `person_`. -/
def picturesOfPerson : List (String × String) :=
  [("person_biking", "🚴"), ("person_biking_dark_skin_tone", "🚴🏿"),
   ("person_biking_light_skin_tone", "🚴🏻"), ("person_biking_medium-dark_skin_tone", "🚴🏾"),
   ("person_biking_medium-light_skin_tone", "🚴🏼"), ("person_biking_medium_skin_tone", "🚴🏽"),
   ("person_bouncing_ball", "\u26f9"), ("person_bouncing_ball_dark_skin_tone", "\u26f9🏿"),
   ("person_bouncing_ball_light_skin_tone", "\u26f9🏻"),
   ("person_bouncing_ball_medium-dark_skin_tone", "\u26f9🏾"),
   ("person_bouncing_ball_medium-light_skin_tone", "\u26f9🏼"),
   ("person_bouncing_ball_medium_skin_tone", "\u26f9🏽"), ("person_bowing", "🙇"),
   ("person_bowing_dark_skin_tone", "🙇🏿"), ("person_bowing_light_skin_tone", "🙇🏻"),
   ("person_bowing_medium-dark_skin_tone", "🙇🏾"), ("person_bowing_medium-light_skin_tone", "🙇🏼"),
   ("person_bowing_medium_skin_tone", "🙇🏽"), ("person_cartwheeling", "🤸"),
   ("person_cartwheeling_dark_skin_tone", "🤸🏿"), ("person_cartwheeling_light_skin_tone", "🤸🏻"),
   ("person_cartwheeling_medium-dark_skin_tone", "🤸🏾"),
   ("person_cartwheeling_medium-light_skin_tone", "🤸🏼"),
   ("person_cartwheeling_medium_skin_tone", "🤸🏽"), ("person_climbing", "🧗"),
   ("person_climbing_dark_skin_tone", "🧗🏿"), ("person_climbing_light_skin_tone", "🧗🏻"),
   ("person_climbing_medium-dark_skin_tone", "🧗🏾"),
   ("person_climbing_medium-light_skin_tone", "🧗🏼"), ("person_climbing_medium_skin_tone", "🧗🏽"),
   ("person_facepalming", "🤦"), ("person_facepalming_dark_skin_tone", "🤦🏿"),
   ("person_facepalming_light_skin_tone", "🤦🏻"), ("person_facepalming_medium-dark_skin_tone", "🤦🏾"),
   ("person_facepalming_medium-light_skin_tone", "🤦🏼"),
   ("person_facepalming_medium_skin_tone", "🤦🏽"), ("person_fencing", "🤺"), ("person_frowning", "🙍"),
   ("person_frowning_dark_skin_tone", "🙍🏿"), ("person_frowning_light_skin_tone", "🙍🏻"),
   ("person_frowning_medium-dark_skin_tone", "🙍🏾"),
   ("person_frowning_medium-light_skin_tone", "🙍🏼"), ("person_frowning_medium_skin_tone", "🙍🏽"),
   ("person_gesturing_no", "🙅"), ("person_gesturing_no_dark_skin_tone", "🙅🏿"),
   ("person_gesturing_no_light_skin_tone", "🙅🏻"),
   ("person_gesturing_no_medium-dark_skin_tone", "🙅🏾"),
   ("person_gesturing_no_medium-light_skin_tone", "🙅🏼"),
   ("person_gesturing_no_medium_skin_tone", "🙅🏽"), ("person_gesturing_ok", "🙆"),
   ("person_gesturing_ok_dark_skin_tone", "🙆🏿"), ("person_gesturing_ok_light_skin_tone", "🙆🏻"),
   ("person_gesturing_ok_medium-dark_skin_tone", "🙆🏾"),
   ("person_gesturing_ok_medium-light_skin_tone", "🙆🏼"),
   ("person_gesturing_ok_medium_skin_tone", "🙆🏽"), ("person_getting_haircut", "💇"),
   ("person_getting_haircut_dark_skin_tone", "💇🏿"),
   ("person_getting_haircut_light_skin_tone", "💇🏻"),
   ("person_getting_haircut_medium-dark_skin_tone", "💇🏾"),
   ("person_getting_haircut_medium-light_skin_tone", "💇🏼"),
   ("person_getting_haircut_medium_skin_tone", "💇🏽"), ("person_getting_massage", "💆"),
   ("person_getting_massage_dark_skin_tone", "💆🏿"),
   ("person_getting_massage_light_skin_tone", "💆🏻"),
   ("person_getting_massage_medium-dark_skin_tone", "💆🏾"),
   ("person_getting_massage_medium-light_skin_tone", "💆🏼"),
   ("person_getting_massage_medium_skin_tone", "💆🏽"), ("person_golfing", "🏌"),
   ("person_golfing_dark_skin_tone", "🏌🏿"), ("person_golfing_light_skin_tone", "🏌🏻"),
   ("person_golfing_medium-dark_skin_tone", "🏌🏾"), ("person_golfing_medium-light_skin_tone", "🏌🏼"),
   ("person_golfing_medium_skin_tone", "🏌🏽"), ("person_in_bed", "🛌"),
   ("person_in_bed_dark_skin_tone", "🛌🏿"), ("person_in_bed_light_skin_tone", "🛌🏻"),
   ("person_in_bed_medium-dark_skin_tone", "🛌🏾"), ("person_in_bed_medium-light_skin_tone", "🛌🏼"),
   ("person_in_bed_medium_skin_tone", "🛌🏽"), ("person_in_lotus_position", "🧘"),
   ("person_in_lotus_position_dark_skin_tone", "🧘🏿"),
   ("person_in_lotus_position_light_skin_tone", "🧘🏻"),
   ("person_in_lotus_position_medium-dark_skin_tone", "🧘🏾"),
   ("person_in_lotus_position_medium-light_skin_tone", "🧘🏼"),
   ("person_in_lotus_position_medium_skin_tone", "🧘🏽"), ("person_in_steamy_room", "🧖"),
   ("person_in_steamy_room_dark_skin_tone", "🧖🏿"), ("person_in_steamy_room_light_skin_tone", "🧖🏻"),
   ("person_in_steamy_room_medium-dark_skin_tone", "🧖🏾"),
   ("person_in_steamy_room_medium-light_skin_tone", "🧖🏼"),
   ("person_in_steamy_room_medium_skin_tone", "🧖🏽"), ("person_juggling", "🤹"),
   ("person_juggling_dark_skin_tone", "🤹🏿"), ("person_juggling_light_skin_tone", "🤹🏻"),
   ("person_juggling_medium-dark_skin_tone", "🤹🏾"),
   ("person_juggling_medium-light_skin_tone", "🤹🏼"), ("person_juggling_medium_skin_tone", "🤹🏽"),
   ("person_kneeling", "🧎"), ("person_lifting_weights", "🏋"),
   ("person_lifting_weights_dark_skin_tone", "🏋🏿"),
   ("person_lifting_weights_light_skin_tone", "🏋🏻"),
   ("person_lifting_weights_medium-dark_skin_tone", "🏋🏾"),
   ("person_lifting_weights_medium-light_skin_tone", "🏋🏼"),
   ("person_lifting_weights_medium_skin_tone", "🏋🏽"), ("person_mountain_biking", "🚵"),
   ("person_mountain_biking_dark_skin_tone", "🚵🏿"),
   ("person_mountain_biking_light_skin_tone", "🚵🏻"),
   ("person_mountain_biking_medium-dark_skin_tone", "🚵🏾"),
   ("person_mountain_biking_medium-light_skin_tone", "🚵🏼"),
   ("person_mountain_biking_medium_skin_tone", "🚵🏽"), ("person_playing_handball", "🤾"),
   ("person_playing_handball_dark_skin_tone", "🤾🏿"),
   ("person_playing_handball_light_skin_tone", "🤾🏻"),
   ("person_playing_handball_medium-dark_skin_tone", "🤾🏾"),
   ("person_playing_handball_medium-light_skin_tone", "🤾🏼"),
   ("person_playing_handball_medium_skin_tone", "🤾🏽"), ("person_playing_water_polo", "🤽"),
   ("person_playing_water_polo_dark_skin_tone", "🤽🏿"),
   ("person_playing_water_polo_light_skin_tone", "🤽🏻"),
   ("person_playing_water_polo_medium-dark_skin_tone", "🤽🏾"),
   ("person_playing_water_polo_medium-light_skin_tone", "🤽🏼"),
   ("person_playing_water_polo_medium_skin_tone", "🤽🏽"), ("person_pouting", "🙎"),
   ("person_pouting_dark_skin_tone", "🙎🏿"), ("person_pouting_light_skin_tone", "🙎🏻"),
   ("person_pouting_medium-dark_skin_tone", "🙎🏾"), ("person_pouting_medium-light_skin_tone", "🙎🏼"),
   ("person_pouting_medium_skin_tone", "🙎🏽"), ("person_raising_hand", "🙋"),
   ("person_raising_hand_dark_skin_tone", "🙋🏿"), ("person_raising_hand_light_skin_tone", "🙋🏻"),
   ("person_raising_hand_medium-dark_skin_tone", "🙋🏾"),
   ("person_raising_hand_medium-light_skin_tone", "🙋🏼"),
   ("person_raising_hand_medium_skin_tone", "🙋🏽"), ("person_rowing_boat", "🚣"),
   ("person_rowing_boat_dark_skin_tone", "🚣🏿"), ("person_rowing_boat_light_skin_tone", "🚣🏻"),
   ("person_rowing_boat_medium-dark_skin_tone", "🚣🏾"),
   ("person_rowing_boat_medium-light_skin_tone", "🚣🏼"),
   ("person_rowing_boat_medium_skin_tone", "🚣🏽"), ("person_running", "🏃"),
   ("person_running_dark_skin_tone", "🏃🏿"), ("person_running_light_skin_tone", "🏃🏻"),
   ("person_running_medium-dark_skin_tone", "🏃🏾"), ("person_running_medium-light_skin_tone", "🏃🏼"),
   ("person_running_medium_skin_tone", "🏃🏽"), ("person_shrugging", "🤷"),
   ("person_shrugging_dark_skin_tone", "🤷🏿"), ("person_shrugging_light_skin_tone", "🤷🏻"),
   ("person_shrugging_medium-dark_skin_tone", "🤷🏾"),
   ("person_shrugging_medium-light_skin_tone", "🤷🏼"), ("person_shrugging_medium_skin_tone", "🤷🏽"),
   ("person_standing", "🧍"), ("person_surfing", "🏄"), ("person_surfing_dark_skin_tone", "🏄🏿"),
   ("person_surfing_light_skin_tone", "🏄🏻"), ("person_surfing_medium-dark_skin_tone", "🏄🏾"),
   ("person_surfing_medium-light_skin_tone", "🏄🏼"), ("person_surfing_medium_skin_tone", "🏄🏽"),
   ("person_swimming", "🏊"), ("person_swimming_dark_skin_tone", "🏊🏿"),
   ("person_swimming_light_skin_tone", "🏊🏻"), ("person_swimming_medium-dark_skin_tone", "🏊🏾"),
   ("person_swimming_medium-light_skin_tone", "🏊🏼"), ("person_swimming_medium_skin_tone", "🏊🏽"),
   ("person_taking_bath", "🛀"), ("person_taking_bath_dark_skin_tone", "🛀🏿"),
   ("person_taking_bath_light_skin_tone", "🛀🏻"), ("person_taking_bath_medium-dark_skin_tone", "🛀🏾"),
   ("person_taking_bath_medium-light_skin_tone", "🛀🏼"),
   ("person_taking_bath_medium_skin_tone", "🛀🏽"), ("person_tipping_hand", "💁"),
   ("person_tipping_hand_dark_skin_tone", "💁🏿"), ("person_tipping_hand_light_skin_tone", "💁🏻"),
   ("person_tipping_hand_medium-dark_skin_tone", "💁🏾"),
   ("person_tipping_hand_medium-light_skin_tone", "💁🏼"),
   ("person_tipping_hand_medium_skin_tone", "💁🏽"), ("person_walking", "🚶"),
   ("person_walking_dark_skin_tone", "🚶🏿"), ("person_walking_light_skin_tone", "🚶🏻"),
   ("person_walking_medium-dark_skin_tone", "🚶🏾"), ("person_walking_medium-light_skin_tone", "🚶🏼"),
   ("person_walking_medium_skin_tone", "🚶🏽"), ("person_wearing_turban", "👳"),
   ("person_wearing_turban_dark_skin_tone", "👳🏿"), ("person_wearing_turban_light_skin_tone", "👳🏻"),
   ("person_wearing_turban_medium-dark_skin_tone", "👳🏾"),
   ("person_wearing_turban_medium-light_skin_tone", "👳🏼"),
   ("person_wearing_turban_medium_skin_tone", "👳🏽"), ("person_with_ball", "\u26f9"),
   ("person_with_blond_hair", "👱"), ("person_with_pouting_face", "🙎")]

/-- The pictures whose names start with `r`. -/
def picturesUnderR : List (String × String) :=
  [("rabbit", "🐰"), ("rabbit2", "🐇"), ("rabbit_face", "🐰"), ("raccoon", "🦝"), ("racehorse", "🐎"),
   ("racing_car", "🏎"), ("racing_motorcycle", "🏍"), ("radio", "📻"), ("radio_button", "🔘"),
   ("radioactive", "\u2622"), ("radioactive_sign", "\u2622"), ("rage", "😡"), ("railway_car", "🚃"),
   ("railway_track", "🛤"), ("rainbow", "🌈"), ("rainbow_flag", "🏳\ufe0f\u200d🌈"),
   ("raised_back_of_hand", "🤚"), ("raised_back_of_hand_dark_skin_tone", "🤚🏿"),
   ("raised_back_of_hand_light_skin_tone", "🤚🏻"),
   ("raised_back_of_hand_medium-dark_skin_tone", "🤚🏾"),
   ("raised_back_of_hand_medium-light_skin_tone", "🤚🏼"),
   ("raised_back_of_hand_medium_skin_tone", "🤚🏽"), ("raised_fist", "\u270a"),
   ("raised_fist_dark_skin_tone", "\u270a🏿"), ("raised_fist_light_skin_tone", "\u270a🏻"),
   ("raised_fist_medium-dark_skin_tone", "\u270a🏾"),
   ("raised_fist_medium-light_skin_tone", "\u270a🏼"), ("raised_fist_medium_skin_tone", "\u270a🏽"),
   ("raised_hand", "\u270b"), ("raised_hand_dark_skin_tone", "\u270b🏿"),
   ("raised_hand_light_skin_tone", "\u270b🏻"), ("raised_hand_medium-dark_skin_tone", "\u270b🏾"),
   ("raised_hand_medium-light_skin_tone", "\u270b🏼"), ("raised_hand_medium_skin_tone", "\u270b🏽"),
   ("raised_hand_with_fingers_splayed", "🖐"),
   ("raised_hand_with_part_between_middle_and_ring_fingers", "🖖"), ("raised_hands", "🙌"),
   ("raising_hand", "🙋"), ("raising_hands", "🙌"), ("raising_hands_dark_skin_tone", "🙌🏿"),
   ("raising_hands_light_skin_tone", "🙌🏻"), ("raising_hands_medium-dark_skin_tone", "🙌🏾"),
   ("raising_hands_medium-light_skin_tone", "🙌🏼"), ("raising_hands_medium_skin_tone", "🙌🏽"),
   ("ram", "🐏"), ("ramen", "🍜"), ("rat", "🐀"), ("razor", "🪒"), ("receipt", "🧾"),
   ("record_button", "\u23fa"), ("recycle", "\u267b"), ("recycling_symbol", "\u267b"),
   ("red-haired_man", "👨\u200d🦰"), ("red-haired_woman", "👩\u200d🦰"), ("red_apple", "🍎"),
   ("red_car", "🚗"), ("red_circle", "🔴"), ("red_envelope", "🧧"), ("red_hair", "🦰"),
   ("red_heart", "\u2764"), ("red_paper_lantern", "🏮"), ("red_square", "🟥"),
   ("red_triangle_pointed_down", "🔻"), ("red_triangle_pointed_up", "🔺"),
   ("regional_indicator_a", "🇦"), ("regional_indicator_b", "🇧"), ("regional_indicator_c", "🇨"),
   ("regional_indicator_d", "🇩"), ("regional_indicator_e", "🇪"), ("regional_indicator_f", "🇫"),
   ("regional_indicator_g", "🇬"), ("regional_indicator_h", "🇭"), ("regional_indicator_i", "🇮"),
   ("regional_indicator_j", "🇯"), ("regional_indicator_k", "🇰"), ("regional_indicator_l", "🇱"),
   ("regional_indicator_m", "🇲"), ("regional_indicator_n", "🇳"), ("regional_indicator_o", "🇴"),
   ("regional_indicator_p", "🇵"), ("regional_indicator_q", "🇶"), ("regional_indicator_r", "🇷"),
   ("regional_indicator_s", "🇸"), ("regional_indicator_symbol_letter_a", "🇦"),
   ("regional_indicator_symbol_letter_b", "🇧"), ("regional_indicator_symbol_letter_c", "🇨"),
   ("regional_indicator_symbol_letter_d", "🇩"), ("regional_indicator_symbol_letter_e", "🇪"),
   ("regional_indicator_symbol_letter_f", "🇫"), ("regional_indicator_symbol_letter_g", "🇬"),
   ("regional_indicator_symbol_letter_h", "🇭"), ("regional_indicator_symbol_letter_i", "🇮"),
   ("regional_indicator_symbol_letter_j", "🇯"), ("regional_indicator_symbol_letter_k", "🇰"),
   ("regional_indicator_symbol_letter_l", "🇱"), ("regional_indicator_symbol_letter_m", "🇲"),
   ("regional_indicator_symbol_letter_n", "🇳"), ("regional_indicator_symbol_letter_o", "🇴"),
   ("regional_indicator_symbol_letter_p", "🇵"), ("regional_indicator_symbol_letter_q", "🇶"),
   ("regional_indicator_symbol_letter_r", "🇷"), ("regional_indicator_symbol_letter_s", "🇸"),
   ("regional_indicator_symbol_letter_t", "🇹"), ("regional_indicator_symbol_letter_u", "🇺"),
   ("regional_indicator_symbol_letter_v", "🇻"), ("regional_indicator_symbol_letter_w", "🇼"),
   ("regional_indicator_symbol_letter_x", "🇽"), ("regional_indicator_symbol_letter_y", "🇾"),
   ("regional_indicator_symbol_letter_z", "🇿"), ("regional_indicator_t", "🇹"),
   ("regional_indicator_u", "🇺"), ("regional_indicator_v", "🇻"), ("regional_indicator_w", "🇼"),
   ("regional_indicator_x", "🇽"), ("regional_indicator_y", "🇾"), ("regional_indicator_z", "🇿"),
   ("registered", "\u00ae"), ("relaxed", "\u263a"), ("relieved", "😌"), ("relieved_face", "😌"),
   ("reminder_ribbon", "🎗"), ("repeat", "🔁"), ("repeat_button", "🔁"), ("repeat_one", "🔂"),
   ("repeat_single_button", "🔂"), ("rescue_worker’s_helmet", "\u26d1"), ("restroom", "🚻"),
   ("reverse_button", "\u25c0"), ("reversed_hand_with_middle_finger_extended", "🖕"),
   ("revolving_hearts", "💞"), ("rewind", "\u23ea"), ("rhinoceros", "🦏"), ("ribbon", "🎀"),
   ("rice", "🍚"), ("rice_ball", "🍙"), ("rice_cracker", "🍘"), ("rice_scene", "🎑"),
   ("right-facing_fist", "🤜"), ("right-facing_fist_dark_skin_tone", "🤜🏿"),
   ("right-facing_fist_light_skin_tone", "🤜🏻"), ("right-facing_fist_medium-dark_skin_tone", "🤜🏾"),
   ("right-facing_fist_medium-light_skin_tone", "🤜🏼"), ("right-facing_fist_medium_skin_tone", "🤜🏽"),
   ("right_anger_bubble", "🗯"), ("right_arrow", "\u27a1"), ("right_arrow_curving_down", "\u2935"),
   ("right_arrow_curving_left", "\u21a9"), ("right_arrow_curving_up", "\u2934"), ("ring", "💍"),
   ("ringed_planet", "🪐"), ("roasted_sweet_potato", "🍠"), ("robot", "🤖"), ("robot_face", "🤖"),
   ("rocket", "🚀"), ("roll_of_paper", "🧻"), ("rolled-up_newspaper", "🗞"),
   ("rolled__up_newspaper", "🗞"), ("roller_coaster", "🎢"), ("rolling_on_the_floor_laughing", "🤣"),
   ("romania", "🇷🇴"), ("rooster", "🐓"), ("rose", "🌹"), ("rosette", "🏵"), ("rotating_light", "🚨"),
   ("round_pushpin", "📍"), ("rowboat", "🚣"), ("rugby_football", "🏉"), ("runner", "🏃"),
   ("running", "🏃"), ("running_shirt", "🎽"), ("running_shirt_with_sash", "🎽"),
   ("running_shoe", "👟"), ("russia", "🇷🇺"), ("rwanda", "🇷🇼"), ("réunion", "🇷🇪")]

end PageScript.Console.Picture
