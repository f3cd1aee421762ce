namespace PageScript.Console.Picture

/-!
# Names of pictures up to the letter `e`

Every name that may stand between colons, in alphabetical order under each heading, with
the picture that it stands for.
-/

/-- The pictures whose names start with a sign or a digit. -/
def picturesUnderSigns : List (String × String) :=
  [("+1", "👍"), ("-1", "👎"), ("100", "💯"), ("1234", "🔢"), ("1st_place_medal", "🥇"),
   ("2nd_place_medal", "🥈"), ("3rd_place_medal", "🥉"), ("8ball", "🎱"), ("__1", "👎")]

/-- The pictures whose names start with `a`. -/
def picturesUnderA : List (String × String) :=
  [("a", "🅰"), ("a_button_(blood_type)", "🅰"), ("ab", "🆎"), ("ab_button_(blood_type)", "🆎"),
   ("abacus", "🧮"), ("abc", "🔤"), ("abcd", "🔡"), ("accept", "🉑"), ("adhesive_bandage", "🩹"),
   ("admission_tickets", "🎟"), ("adult", "🧑"), ("adult_dark_skin_tone", "🧑🏿"),
   ("adult_light_skin_tone", "🧑🏻"), ("adult_medium-dark_skin_tone", "🧑🏾"),
   ("adult_medium-light_skin_tone", "🧑🏼"), ("adult_medium_skin_tone", "🧑🏽"),
   ("aerial_tramway", "🚡"), ("afghanistan", "🇦🇫"), ("airplane", "\u2708"),
   ("airplane_arrival", "🛬"), ("airplane_arriving", "🛬"), ("airplane_departure", "🛫"),
   ("alarm_clock", "\u23f0"), ("albania", "🇦🇱"), ("alembic", "\u2697"), ("algeria", "🇩🇿"),
   ("alien", "👽"), ("alien_monster", "👾"), ("ambulance", "🚑"), ("american_football", "🏈"),
   ("american_samoa", "🇦🇸"), ("amphora", "🏺"), ("anchor", "\u2693"), ("andorra", "🇦🇩"),
   ("angel", "👼"), ("anger", "💢"), ("anger_symbol", "💢"), ("angola", "🇦🇴"), ("angry", "😠"),
   ("angry_face", "😠"), ("angry_face_with_horns", "👿"), ("anguilla", "🇦🇮"), ("anguished", "😧"),
   ("anguished_face", "😧"), ("ant", "🐜"), ("antarctica", "🇦🇶"), ("antenna_bars", "📶"),
   ("antigua_&_barbuda", "🇦🇬"), ("anxious_face_with_sweat", "😰"), ("apple", "🍎"),
   ("aquarius", "\u2652"), ("argentina", "🇦🇷"), ("aries", "\u2648"), ("armenia", "🇦🇲"),
   ("arrow_backward", "\u25c0"), ("arrow_double_down", "\u23ec"), ("arrow_double_up", "\u23eb"),
   ("arrow_down", "\u2b07"), ("arrow_down_small", "🔽"), ("arrow_forward", "\u25b6"),
   ("arrow_heading_down", "\u2935"), ("arrow_heading_up", "\u2934"), ("arrow_left", "\u2b05"),
   ("arrow_lower_left", "\u2199"), ("arrow_lower_right", "\u2198"), ("arrow_right", "\u27a1"),
   ("arrow_right_hook", "\u21aa"), ("arrow_up", "\u2b06"), ("arrow_up_down", "\u2195"),
   ("arrow_up_small", "🔼"), ("arrow_upper_left", "\u2196"), ("arrow_upper_right", "\u2197"),
   ("arrows_clockwise", "🔃"), ("arrows_counterclockwise", "🔄"), ("art", "🎨"),
   ("articulated_lorry", "🚛"), ("artist_palette", "🎨"), ("aruba", "🇦🇼"), ("ascension_island", "🇦🇨"),
   ("astonished", "😲"), ("astonished_face", "😲"), ("athletic_shoe", "👟"), ("atm", "🏧"),
   ("atm_sign", "🏧"), ("atom_symbol", "\u269b"), ("australia", "🇦🇺"), ("austria", "🇦🇹"),
   ("auto_rickshaw", "🛺"), ("automobile", "🚗"), ("avocado", "🥑"), ("axe", "🪓"),
   ("azerbaijan", "🇦🇿")]

/-- The pictures whose names start with `b`. -/
def picturesUnderB : List (String × String) :=
  [("b", "🅱"), ("b_button_(blood_type)", "🅱"), ("baby", "👶"), ("baby_angel", "👼"),
   ("baby_angel_dark_skin_tone", "👼🏿"), ("baby_angel_light_skin_tone", "👼🏻"),
   ("baby_angel_medium-dark_skin_tone", "👼🏾"), ("baby_angel_medium-light_skin_tone", "👼🏼"),
   ("baby_angel_medium_skin_tone", "👼🏽"), ("baby_bottle", "🍼"), ("baby_chick", "🐤"),
   ("baby_dark_skin_tone", "👶🏿"), ("baby_light_skin_tone", "👶🏻"),
   ("baby_medium-dark_skin_tone", "👶🏾"), ("baby_medium-light_skin_tone", "👶🏼"),
   ("baby_medium_skin_tone", "👶🏽"), ("baby_symbol", "🚼"), ("back", "🔙"), ("back_arrow", "🔙"),
   ("backhand_index_pointing_down", "👇"), ("backhand_index_pointing_down_dark_skin_tone", "👇🏿"),
   ("backhand_index_pointing_down_light_skin_tone", "👇🏻"),
   ("backhand_index_pointing_down_medium-dark_skin_tone", "👇🏾"),
   ("backhand_index_pointing_down_medium-light_skin_tone", "👇🏼"),
   ("backhand_index_pointing_down_medium_skin_tone", "👇🏽"), ("backhand_index_pointing_left", "👈"),
   ("backhand_index_pointing_left_dark_skin_tone", "👈🏿"),
   ("backhand_index_pointing_left_light_skin_tone", "👈🏻"),
   ("backhand_index_pointing_left_medium-dark_skin_tone", "👈🏾"),
   ("backhand_index_pointing_left_medium-light_skin_tone", "👈🏼"),
   ("backhand_index_pointing_left_medium_skin_tone", "👈🏽"), ("backhand_index_pointing_right", "👉"),
   ("backhand_index_pointing_right_dark_skin_tone", "👉🏿"),
   ("backhand_index_pointing_right_light_skin_tone", "👉🏻"),
   ("backhand_index_pointing_right_medium-dark_skin_tone", "👉🏾"),
   ("backhand_index_pointing_right_medium-light_skin_tone", "👉🏼"),
   ("backhand_index_pointing_right_medium_skin_tone", "👉🏽"), ("backhand_index_pointing_up", "👆"),
   ("backhand_index_pointing_up_dark_skin_tone", "👆🏿"),
   ("backhand_index_pointing_up_light_skin_tone", "👆🏻"),
   ("backhand_index_pointing_up_medium-dark_skin_tone", "👆🏾"),
   ("backhand_index_pointing_up_medium-light_skin_tone", "👆🏼"),
   ("backhand_index_pointing_up_medium_skin_tone", "👆🏽"), ("bacon", "🥓"), ("badger", "🦡"),
   ("badminton", "🏸"), ("badminton_racquet_and_shuttlecock", "🏸"), ("bagel", "🥯"),
   ("baggage_claim", "🛄"), ("baguette_bread", "🥖"), ("bahamas", "🇧🇸"), ("bahrain", "🇧🇭"),
   ("balance_scale", "\u2696"), ("bald", "🦲"), ("bald_man", "👨\u200d🦲"), ("bald_woman", "👩\u200d🦲"),
   ("ballet_shoes", "🩰"), ("balloon", "🎈"), ("ballot_box_with_ballot", "🗳"),
   ("ballot_box_with_check", "\u2611"), ("bamboo", "🎍"), ("banana", "🍌"), ("bangbang", "\u203c"),
   ("bangladesh", "🇧🇩"), ("banjo", "🪕"), ("bank", "🏦"), ("bar_chart", "📊"), ("barbados", "🇧🇧"),
   ("barber", "💈"), ("barber_pole", "💈"), ("baseball", "\u26be"), ("basket", "🧺"),
   ("basketball", "🏀"), ("bat", "🦇"), ("bath", "🛀"), ("bathtub", "🛁"), ("battery", "🔋"),
   ("beach_with_umbrella", "🏖"), ("beaming_face_with_smiling_eyes", "😁"), ("bear", "🐻"),
   ("bear_face", "🐻"), ("bearded_person", "🧔"), ("bearded_person_dark_skin_tone", "🧔🏿"),
   ("bearded_person_light_skin_tone", "🧔🏻"), ("bearded_person_medium-dark_skin_tone", "🧔🏾"),
   ("bearded_person_medium-light_skin_tone", "🧔🏼"), ("bearded_person_medium_skin_tone", "🧔🏽"),
   ("beating_heart", "💓"), ("bed", "🛏"), ("bee", "🐝"), ("beer", "🍺"), ("beer_mug", "🍺"),
   ("beers", "🍻"), ("beetle", "🐞"), ("beginner", "🔰"), ("belarus", "🇧🇾"), ("belgium", "🇧🇪"),
   ("belize", "🇧🇿"), ("bell", "🔔"), ("bell_with_slash", "🔕"), ("bellhop_bell", "🛎"),
   ("benin", "🇧🇯"), ("bento", "🍱"), ("bento_box", "🍱"), ("bermuda", "🇧🇲"), ("beverage_box", "🧃"),
   ("bhutan", "🇧🇹"), ("bicycle", "🚲"), ("bicyclist", "🚴"), ("bike", "🚲"), ("bikini", "👙"),
   ("billed_cap", "🧢"), ("biohazard", "\u2623"), ("biohazard_sign", "\u2623"), ("bird", "🐦"),
   ("birthday", "🎂"), ("birthday_cake", "🎂"), ("black_circle", "\u26ab"),
   ("black_circle_for_record", "\u23fa"), ("black_flag", "🏴"), ("black_heart", "🖤"),
   ("black_joker", "🃏"), ("black_large_square", "\u2b1b"),
   ("black_left__pointing_double_triangle_with_vertical_bar", "\u23ee"),
   ("black_medium-small_square", "\u25fe"), ("black_medium_small_square", "\u25fe"),
   ("black_medium_square", "\u25fc"), ("black_nib", "\u2712"),
   ("black_right__pointing_double_triangle_with_vertical_bar", "\u23ed"),
   ("black_right__pointing_triangle_with_double_vertical_bar", "\u23ef"),
   ("black_small_square", "\u25aa"), ("black_square_button", "🔲"),
   ("black_square_for_stop", "\u23f9"), ("blond-haired_man", "👱\u200d\u2642\ufe0f"),
   ("blond-haired_man_dark_skin_tone", "👱🏿\u200d\u2642\ufe0f"),
   ("blond-haired_man_light_skin_tone", "👱🏻\u200d\u2642\ufe0f"),
   ("blond-haired_man_medium-dark_skin_tone", "👱🏾\u200d\u2642\ufe0f"),
   ("blond-haired_man_medium-light_skin_tone", "👱🏼\u200d\u2642\ufe0f"),
   ("blond-haired_man_medium_skin_tone", "👱🏽\u200d\u2642\ufe0f"), ("blond-haired_person", "👱"),
   ("blond-haired_person_dark_skin_tone", "👱🏿"), ("blond-haired_person_light_skin_tone", "👱🏻"),
   ("blond-haired_person_medium-dark_skin_tone", "👱🏾"),
   ("blond-haired_person_medium-light_skin_tone", "👱🏼"),
   ("blond-haired_person_medium_skin_tone", "👱🏽"), ("blond-haired_woman", "👱\u200d\u2640\ufe0f"),
   ("blond-haired_woman_dark_skin_tone", "👱🏿\u200d\u2640\ufe0f"),
   ("blond-haired_woman_light_skin_tone", "👱🏻\u200d\u2640\ufe0f"),
   ("blond-haired_woman_medium-dark_skin_tone", "👱🏾\u200d\u2640\ufe0f"),
   ("blond-haired_woman_medium-light_skin_tone", "👱🏼\u200d\u2640\ufe0f"),
   ("blond-haired_woman_medium_skin_tone", "👱🏽\u200d\u2640\ufe0f"), ("blossom", "🌼"),
   ("blowfish", "🐡"), ("blue_book", "📘"), ("blue_car", "🚙"), ("blue_circle", "🔵"),
   ("blue_heart", "💙"), ("blue_square", "🟦"), ("blush", "😊"), ("boar", "🐗"), ("boat", "\u26f5"),
   ("bolivia", "🇧🇴"), ("bomb", "💣"), ("bone", "🦴"), ("book", "📖"), ("bookmark", "🔖"),
   ("bookmark_tabs", "📑"), ("books", "📚"), ("boom", "💥"), ("boot", "👢"),
   ("bosnia_&_herzegovina", "🇧🇦"), ("botswana", "🇧🇼"), ("bottle_with_popping_cork", "🍾"),
   ("bouquet", "💐"), ("bouvet_island", "🇧🇻"), ("bow", "🙇"), ("bow_and_arrow", "🏹"),
   ("bowl_with_spoon", "🥣"), ("bowling", "🎳"), ("boxing_glove", "🥊"), ("boy", "👦"),
   ("boy_dark_skin_tone", "👦🏿"), ("boy_light_skin_tone", "👦🏻"), ("boy_medium-dark_skin_tone", "👦🏾"),
   ("boy_medium-light_skin_tone", "👦🏼"), ("boy_medium_skin_tone", "👦🏽"), ("brain", "🧠"),
   ("brazil", "🇧🇷"), ("bread", "🍞"), ("breast-feeding", "🤱"),
   ("breast-feeding_dark_skin_tone", "🤱🏿"), ("breast-feeding_light_skin_tone", "🤱🏻"),
   ("breast-feeding_medium-dark_skin_tone", "🤱🏾"), ("breast-feeding_medium-light_skin_tone", "🤱🏼"),
   ("breast-feeding_medium_skin_tone", "🤱🏽"), ("brick", "🧱"), ("bride_with_veil", "👰"),
   ("bride_with_veil_dark_skin_tone", "👰🏿"), ("bride_with_veil_light_skin_tone", "👰🏻"),
   ("bride_with_veil_medium-dark_skin_tone", "👰🏾"),
   ("bride_with_veil_medium-light_skin_tone", "👰🏼"), ("bride_with_veil_medium_skin_tone", "👰🏽"),
   ("bridge_at_night", "🌉"), ("briefcase", "💼"), ("briefs", "🩲"), ("bright_button", "🔆"),
   ("british_indian_ocean_territory", "🇮🇴"), ("british_virgin_islands", "🇻🇬"), ("broccoli", "🥦"),
   ("broken_heart", "💔"), ("broom", "🧹"), ("brown_circle", "🟤"), ("brown_heart", "🤎"),
   ("brown_square", "🟫"), ("brunei", "🇧🇳"), ("bug", "🐛"), ("building_construction", "🏗"),
   ("bulb", "💡"), ("bulgaria", "🇧🇬"), ("bullet_train", "🚅"), ("bullettrain_front", "🚅"),
   ("bullettrain_side", "🚄"), ("burkina_faso", "🇧🇫"), ("burrito", "🌯"), ("burundi", "🇧🇮"),
   ("bus", "🚌"), ("bus_stop", "🚏"), ("busstop", "🚏"), ("bust_in_silhouette", "👤"),
   ("busts_in_silhouette", "👥"), ("butter", "🧈"), ("butterfly", "🦋")]

/-- The pictures whose names start with `c`. -/
def picturesUnderC : List (String × String) :=
  [("cactus", "🌵"), ("cake", "🍰"), ("calendar", "📆"), ("call_me_hand", "🤙"),
   ("call_me_hand_dark_skin_tone", "🤙🏿"), ("call_me_hand_light_skin_tone", "🤙🏻"),
   ("call_me_hand_medium-dark_skin_tone", "🤙🏾"), ("call_me_hand_medium-light_skin_tone", "🤙🏼"),
   ("call_me_hand_medium_skin_tone", "🤙🏽"), ("calling", "📲"), ("cambodia", "🇰🇭"), ("camel", "🐫"),
   ("camera", "📷"), ("camera_with_flash", "📸"), ("cameroon", "🇨🇲"), ("camping", "🏕"),
   ("canada", "🇨🇦"), ("canary_islands", "🇮🇨"), ("cancer", "\u264b"), ("candle", "🕯"),
   ("candy", "🍬"), ("canned_food", "🥫"), ("canoe", "🛶"), ("cape_verde", "🇨🇻"),
   ("capital_abcd", "🔠"), ("capricorn", "\u2651"), ("car", "🚗"), ("card_file_box", "🗃"),
   ("card_index", "📇"), ("card_index_dividers", "🗂"), ("caribbean_netherlands", "🇧🇶"),
   ("carousel_horse", "🎠"), ("carp_streamer", "🎏"), ("carrot", "🥕"), ("castle", "🏰"), ("cat", "🐱"),
   ("cat2", "🐈"), ("cat_face", "🐱"), ("cat_face_with_tears_of_joy", "😹"),
   ("cat_face_with_wry_smile", "😼"), ("cayman_islands", "🇰🇾"), ("cd", "💿"),
   ("central_african_republic", "🇨🇫"), ("ceuta_&_melilla", "🇪🇦"), ("chad", "🇹🇩"),
   ("chains", "\u26d3"), ("chair", "🪑"), ("chart", "💹"), ("chart_decreasing", "📉"),
   ("chart_increasing", "📈"), ("chart_increasing_with_yen", "💹"),
   ("chart_with_downwards_trend", "📉"), ("chart_with_upwards_trend", "📈"), ("checkered_flag", "🏁"),
   ("cheese_wedge", "🧀"), ("chequered_flag", "🏁"), ("cherries", "🍒"), ("cherry_blossom", "🌸"),
   ("chess_pawn", "\u265f"), ("chestnut", "🌰"), ("chicken", "🐔"), ("child", "🧒"),
   ("child_dark_skin_tone", "🧒🏿"), ("child_light_skin_tone", "🧒🏻"),
   ("child_medium-dark_skin_tone", "🧒🏾"), ("child_medium-light_skin_tone", "🧒🏼"),
   ("child_medium_skin_tone", "🧒🏽"), ("children_crossing", "🚸"), ("chile", "🇨🇱"), ("china", "🇨🇳"),
   ("chipmunk", "🐿"), ("chocolate_bar", "🍫"), ("chopsticks", "🥢"), ("christmas_island", "🇨🇽"),
   ("christmas_tree", "🎄"), ("church", "\u26ea"), ("cigarette", "🚬"), ("cinema", "🎦"),
   ("circled_m", "\u24c2"), ("circus_tent", "🎪"), ("city_sunrise", "🌇"), ("city_sunset", "🌆"),
   ("cityscape", "🏙"), ("cityscape_at_dusk", "🌆"), ("cl", "🆑"), ("cl_button", "🆑"), ("clamp", "🗜"),
   ("clap", "👏"), ("clapper", "🎬"), ("clapper_board", "🎬"), ("clapping_hands", "👏"),
   ("clapping_hands_dark_skin_tone", "👏🏿"), ("clapping_hands_light_skin_tone", "👏🏻"),
   ("clapping_hands_medium-dark_skin_tone", "👏🏾"), ("clapping_hands_medium-light_skin_tone", "👏🏼"),
   ("clapping_hands_medium_skin_tone", "👏🏽"), ("classical_building", "🏛"),
   ("clinking_beer_mugs", "🍻"), ("clinking_glasses", "🥂"), ("clipboard", "📋"),
   ("clipperton_island", "🇨🇵"), ("clock1", "🕐"), ("clock10", "🕙"), ("clock1030", "🕥"),
   ("clock11", "🕚"), ("clock1130", "🕦"), ("clock12", "🕛"), ("clock1230", "🕧"), ("clock130", "🕜"),
   ("clock2", "🕑"), ("clock230", "🕝"), ("clock3", "🕒"), ("clock330", "🕞"), ("clock4", "🕓"),
   ("clock430", "🕟"), ("clock5", "🕔"), ("clock530", "🕠"), ("clock6", "🕕"), ("clock630", "🕡"),
   ("clock7", "🕖"), ("clock730", "🕢"), ("clock8", "🕗"), ("clock830", "🕣"), ("clock9", "🕘"),
   ("clock930", "🕤"), ("clockwise_vertical_arrows", "🔃"), ("closed_book", "📕"),
   ("closed_lock_with_key", "🔐"), ("closed_mailbox_with_lowered_flag", "📪"),
   ("closed_mailbox_with_raised_flag", "📫"), ("closed_umbrella", "🌂"), ("cloud", "\u2601"),
   ("cloud_with_lightning", "🌩"), ("cloud_with_lightning_and_rain", "\u26c8"),
   ("cloud_with_rain", "🌧"), ("cloud_with_snow", "🌨"), ("cloud_with_tornado", "🌪"),
   ("clown_face", "🤡"), ("club_suit", "\u2663"), ("clubs", "\u2663"), ("clutch_bag", "👝"),
   ("coat", "🧥"), ("cocktail", "🍸"), ("cocktail_glass", "🍸"), ("coconut", "🥥"),
   ("cocos_(keeling)_islands", "🇨🇨"), ("coffee", "\u2615"), ("coffin", "\u26b0"),
   ("cold_face", "🥶"), ("cold_sweat", "😰"), ("collision", "💥"), ("colombia", "🇨🇴"),
   ("comet", "\u2604"), ("comoros", "🇰🇲"), ("compass", "🧭"), ("compression", "🗜"),
   ("computer", "💻"), ("computer_disk", "💽"), ("computer_mouse", "🖱"), ("confetti_ball", "🎊"),
   ("confounded", "😖"), ("confounded_face", "😖"), ("confused", "😕"), ("confused_face", "😕"),
   ("congo_-_brazzaville", "🇨🇬"), ("congo_-_kinshasa", "🇨🇩"), ("congratulations", "\u3297"),
   ("construction", "🚧"), ("construction_worker", "👷"),
   ("construction_worker_dark_skin_tone", "👷🏿"), ("construction_worker_light_skin_tone", "👷🏻"),
   ("construction_worker_medium-dark_skin_tone", "👷🏾"),
   ("construction_worker_medium-light_skin_tone", "👷🏼"),
   ("construction_worker_medium_skin_tone", "👷🏽"), ("control_knobs", "🎛"),
   ("convenience_store", "🏪"), ("cook_islands", "🇨🇰"), ("cooked_rice", "🍚"), ("cookie", "🍪"),
   ("cooking", "🍳"), ("cool", "🆒"), ("cool_button", "🆒"), ("cop", "👮"), ("copyright", "\u00a9"),
   ("corn", "🌽"), ("costa_rica", "🇨🇷"), ("couch_and_lamp", "🛋"),
   ("counterclockwise_arrows_button", "🔄"), ("couple", "👫"), ("couple_with_heart", "💑"),
   ("couple_with_heart_man_man", "👨\u200d\u2764\ufe0f\u200d👨"),
   ("couple_with_heart_woman_man", "👩\u200d\u2764\ufe0f\u200d👨"),
   ("couple_with_heart_woman_woman", "👩\u200d\u2764\ufe0f\u200d👩"), ("couplekiss", "💏"),
   ("cow", "🐮"), ("cow2", "🐄"), ("cow_face", "🐮"), ("cowboy_hat_face", "🤠"), ("crab", "🦀"),
   ("crayon", "🖍"), ("credit_card", "💳"), ("crescent_moon", "🌙"), ("cricket", "🦗"),
   ("cricket_bat_and_ball", "🏏"), ("cricket_game", "🏏"), ("croatia", "🇭🇷"), ("crocodile", "🐊"),
   ("croissant", "🥐"), ("cross_mark", "\u274c"), ("cross_mark_button", "\u274e"),
   ("crossed_fingers", "🤞"), ("crossed_fingers_dark_skin_tone", "🤞🏿"),
   ("crossed_fingers_light_skin_tone", "🤞🏻"), ("crossed_fingers_medium-dark_skin_tone", "🤞🏾"),
   ("crossed_fingers_medium-light_skin_tone", "🤞🏼"), ("crossed_fingers_medium_skin_tone", "🤞🏽"),
   ("crossed_flags", "🎌"), ("crossed_swords", "\u2694"), ("crown", "👑"), ("cry", "😢"),
   ("crying_cat_face", "😿"), ("crying_face", "😢"), ("crystal_ball", "🔮"), ("cuba", "🇨🇺"),
   ("cucumber", "🥒"), ("cup_with_straw", "🥤"), ("cupcake", "🧁"), ("cupid", "💘"), ("curaçao", "🇨🇼"),
   ("curling_stone", "🥌"), ("curly-haired_man", "👨\u200d🦱"), ("curly-haired_woman", "👩\u200d🦱"),
   ("curly_hair", "🦱"), ("curly_loop", "\u27b0"), ("currency_exchange", "💱"), ("curry", "🍛"),
   ("curry_rice", "🍛"), ("custard", "🍮"), ("customs", "🛃"), ("cut_of_meat", "🥩"), ("cyclone", "🌀"),
   ("cyprus", "🇨🇾"), ("czechia", "🇨🇿"), ("côte_d’ivoire", "🇨🇮")]

/-- The pictures whose names start with `d` or `e`. -/
def picturesUnderDToE : List (String × String) :=
  [("dagger", "🗡"), ("dagger_knife", "🗡"), ("dancer", "💃"), ("dancers", "👯"), ("dango", "🍡"),
   ("dark_skin_tone", "🏿"), ("dark_sunglasses", "🕶"), ("dart", "🎯"), ("dash", "💨"),
   ("dashing_away", "💨"), ("date", "📅"), ("deaf_person", "🧏"), ("deciduous_tree", "🌳"),
   ("deer", "🦌"), ("delivery_truck", "🚚"), ("denmark", "🇩🇰"), ("department_store", "🏬"),
   ("derelict_house", "🏚"), ("derelict_house_building", "🏚"), ("desert", "🏜"),
   ("desert_island", "🏝"), ("desktop_computer", "🖥"), ("detective", "🕵"),
   ("detective_dark_skin_tone", "🕵🏿"), ("detective_light_skin_tone", "🕵🏻"),
   ("detective_medium-dark_skin_tone", "🕵🏾"), ("detective_medium-light_skin_tone", "🕵🏼"),
   ("detective_medium_skin_tone", "🕵🏽"), ("diamond_shape_with_a_dot_inside", "💠"),
   ("diamond_suit", "\u2666"), ("diamond_with_a_dot", "💠"), ("diamonds", "\u2666"),
   ("diego_garcia", "🇩🇬"), ("dim_button", "🔅"), ("direct_hit", "🎯"), ("disappointed", "😞"),
   ("disappointed_face", "😞"), ("disappointed_relieved", "😥"), ("diving_mask", "🤿"),
   ("diya_lamp", "🪔"), ("dizzy", "💫"), ("dizzy_face", "😵"), ("djibouti", "🇩🇯"), ("dna", "🧬"),
   ("do_not_litter", "🚯"), ("dog", "🐶"), ("dog2", "🐕"), ("dog_face", "🐶"), ("dollar", "💵"),
   ("dollar_banknote", "💵"), ("dolls", "🎎"), ("dolphin", "🐬"), ("dominica", "🇩🇲"),
   ("dominican_republic", "🇩🇴"), ("door", "🚪"), ("dotted_six-pointed_star", "🔯"),
   ("double_curly_loop", "\u27bf"), ("double_exclamation_mark", "\u203c"),
   ("double_vertical_bar", "\u23f8"), ("doughnut", "🍩"), ("dove", "🕊"), ("dove_of_peace", "🕊"),
   ("down-left_arrow", "\u2199"), ("down-right_arrow", "\u2198"), ("down_arrow", "\u2b07"),
   ("downcast_face_with_sweat", "😓"), ("downwards_button", "🔽"), ("dragon", "🐉"),
   ("dragon_face", "🐲"), ("dress", "👗"), ("dromedary_camel", "🐪"), ("drooling_face", "🤤"),
   ("drop_of_blood", "🩸"), ("droplet", "💧"), ("drum", "🥁"), ("duck", "🦆"), ("dumpling", "🥟"),
   ("dvd", "📀"), ("e-mail", "📧"), ("e__mail", "📧"), ("eagle", "🦅"), ("ear", "👂"),
   ("ear_dark_skin_tone", "👂🏿"), ("ear_light_skin_tone", "👂🏻"), ("ear_medium-dark_skin_tone", "👂🏾"),
   ("ear_medium-light_skin_tone", "👂🏼"), ("ear_medium_skin_tone", "👂🏽"), ("ear_of_corn", "🌽"),
   ("ear_of_rice", "🌾"), ("ear_with_hearing_aid", "🦻"), ("earth_africa", "🌍"),
   ("earth_americas", "🌎"), ("earth_asia", "🌏"), ("ecuador", "🇪🇨"), ("egg", "🍳"), ("eggplant", "🍆"),
   ("egypt", "🇪🇬"), ("eight", "\u0038\ufe0f\u20e3"), ("eight-pointed_star", "\u2734"),
   ("eight-spoked_asterisk", "\u2733"), ("eight-thirty", "🕣"), ("eight_o’clock", "🕗"),
   ("eight_pointed_black_star", "\u2734"), ("eight_spoked_asterisk", "\u2733"),
   ("eject_button", "\u23cf"), ("eject_symbol", "\u23cf"), ("el_salvador", "🇸🇻"),
   ("electric_plug", "🔌"), ("elephant", "🐘"), ("eleven-thirty", "🕦"), ("eleven_o’clock", "🕚"),
   ("elf", "🧝"), ("elf_dark_skin_tone", "🧝🏿"), ("elf_light_skin_tone", "🧝🏻"),
   ("elf_medium-dark_skin_tone", "🧝🏾"), ("elf_medium-light_skin_tone", "🧝🏼"),
   ("elf_medium_skin_tone", "🧝🏽"), ("email", "\u2709"),
   ("emoji_modifier_fitzpatrick_type__1__2", "🏻"), ("emoji_modifier_fitzpatrick_type__3", "🏼"),
   ("emoji_modifier_fitzpatrick_type__4", "🏽"), ("emoji_modifier_fitzpatrick_type__5", "🏾"),
   ("emoji_modifier_fitzpatrick_type__6", "🏿"), ("end", "🔚"), ("end_arrow", "🔚"),
   ("england", "🏴󠁧󠁢󠁥󠁮󠁧󠁿"), ("envelope", "\u2709"), ("envelope_with_arrow", "📩"),
   ("equatorial_guinea", "🇬🇶"), ("eritrea", "🇪🇷"), ("estonia", "🇪🇪"), ("ethiopia", "🇪🇹"),
   ("euro", "💶"), ("euro_banknote", "💶"), ("european_castle", "🏰"), ("european_post_office", "🏤"),
   ("european_union", "🇪🇺"), ("evergreen_tree", "🌲"), ("ewe", "🐑"), ("exclamation", "\u2757"),
   ("exclamation_mark", "\u2757"), ("exclamation_question_mark", "\u2049"), ("exploding_head", "🤯"),
   ("expressionless", "😑"), ("expressionless_face", "😑"), ("eye", "👁"),
   ("eye_in_speech_bubble", "👁\ufe0f\u200d🗨\ufe0f"), ("eyeglasses", "👓"), ("eyes", "👀")]

end PageScript.Console.Picture
