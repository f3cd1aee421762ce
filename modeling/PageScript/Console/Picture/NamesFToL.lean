namespace PageScript.Console.Picture

/-!
# Names of pictures from `f` to `l`

Every name that may stand between colons, in alphabetical order under each heading, with
the picture that it stands for.
-/

/-- The pictures whose names start with `f` but not with `flag_for_`. -/
def picturesUnderF : List (String × String) :=
  [("face_blowing_a_kiss", "😘"), ("face_savoring_food", "😋"), ("face_screaming_in_fear", "😱"),
   ("face_vomiting", "🤮"), ("face_with_hand_over_mouth", "🤭"), ("face_with_head-bandage", "🤕"),
   ("face_with_head__bandage", "🤕"), ("face_with_medical_mask", "😷"), ("face_with_monocle", "🧐"),
   ("face_with_open_mouth", "😮"), ("face_with_raised_eyebrow", "🤨"),
   ("face_with_rolling_eyes", "🙄"), ("face_with_steam_from_nose", "😤"),
   ("face_with_symbols_on_mouth", "🤬"), ("face_with_tears_of_joy", "😂"),
   ("face_with_thermometer", "🤒"), ("face_with_tongue", "😛"), ("face_without_mouth", "😶"),
   ("facepunch", "👊"), ("factory", "🏭"), ("fairy", "🧚"), ("fairy_dark_skin_tone", "🧚🏿"),
   ("fairy_light_skin_tone", "🧚🏻"), ("fairy_medium-dark_skin_tone", "🧚🏾"),
   ("fairy_medium-light_skin_tone", "🧚🏼"), ("fairy_medium_skin_tone", "🧚🏽"), ("falafel", "🧆"),
   ("falkland_islands", "🇫🇰"), ("fallen_leaf", "🍂"), ("family", "👪"),
   ("family_man_boy", "👨\u200d👦"), ("family_man_boy_boy", "👨\u200d👦\u200d👦"),
   ("family_man_girl", "👨\u200d👧"), ("family_man_girl_boy", "👨\u200d👧\u200d👦"),
   ("family_man_girl_girl", "👨\u200d👧\u200d👧"), ("family_man_man_boy", "👨\u200d👨\u200d👦"),
   ("family_man_man_boy_boy", "👨\u200d👨\u200d👦\u200d👦"), ("family_man_man_girl", "👨\u200d👨\u200d👧"),
   ("family_man_man_girl_boy", "👨\u200d👨\u200d👧\u200d👦"),
   ("family_man_man_girl_girl", "👨\u200d👨\u200d👧\u200d👧"),
   ("family_man_woman_boy", "👨\u200d👩\u200d👦"),
   ("family_man_woman_boy_boy", "👨\u200d👩\u200d👦\u200d👦"),
   ("family_man_woman_girl", "👨\u200d👩\u200d👧"),
   ("family_man_woman_girl_boy", "👨\u200d👩\u200d👧\u200d👦"),
   ("family_man_woman_girl_girl", "👨\u200d👩\u200d👧\u200d👧"), ("family_woman_boy", "👩\u200d👦"),
   ("family_woman_boy_boy", "👩\u200d👦\u200d👦"), ("family_woman_girl", "👩\u200d👧"),
   ("family_woman_girl_boy", "👩\u200d👧\u200d👦"), ("family_woman_girl_girl", "👩\u200d👧\u200d👧"),
   ("family_woman_woman_boy", "👩\u200d👩\u200d👦"),
   ("family_woman_woman_boy_boy", "👩\u200d👩\u200d👦\u200d👦"),
   ("family_woman_woman_girl", "👩\u200d👩\u200d👧"),
   ("family_woman_woman_girl_boy", "👩\u200d👩\u200d👧\u200d👦"),
   ("family_woman_woman_girl_girl", "👩\u200d👩\u200d👧\u200d👧"), ("faroe_islands", "🇫🇴"),
   ("fast-forward_button", "\u23e9"), ("fast_down_button", "\u23ec"), ("fast_forward", "\u23e9"),
   ("fast_reverse_button", "\u23ea"), ("fast_up_button", "\u23eb"), ("fax", "📠"),
   ("fax_machine", "📠"), ("fearful", "😨"), ("fearful_face", "😨"), ("feet", "🐾"),
   ("female_sign", "\u2640"), ("ferris_wheel", "🎡"), ("ferry", "\u26f4"), ("field_hockey", "🏑"),
   ("field_hockey_stick_and_ball", "🏑"), ("fiji", "🇫🇯"), ("file_cabinet", "🗄"),
   ("file_folder", "📁"), ("film_frames", "🎞"), ("film_projector", "📽"), ("finland", "🇫🇮"),
   ("fire", "🔥"), ("fire_engine", "🚒"), ("fire_extinguisher", "🧯"), ("firecracker", "🧨"),
   ("fireworks", "🎆"), ("first_quarter_moon", "🌓"), ("first_quarter_moon_face", "🌛"),
   ("first_quarter_moon_with_face", "🌛"), ("fish", "🐟"), ("fish_cake", "🍥"),
   ("fish_cake_with_swirl", "🍥"), ("fishing_pole", "🎣"), ("fishing_pole_and_fish", "🎣"),
   ("fist", "\u270a"), ("five", "\u0035\ufe0f\u20e3"), ("five-thirty", "🕠"), ("five_o’clock", "🕔"),
   ("flag_in_hole", "\u26f3"), ("flags", "🎏"), ("flamingo", "🦩"), ("flashlight", "🔦"),
   ("flat_shoe", "🥿"), ("fleur-de-lis", "\u269c"), ("fleur__de__lis", "\u269c"),
   ("flexed_biceps", "💪"), ("flexed_biceps_dark_skin_tone", "💪🏿"),
   ("flexed_biceps_light_skin_tone", "💪🏻"), ("flexed_biceps_medium-dark_skin_tone", "💪🏾"),
   ("flexed_biceps_medium-light_skin_tone", "💪🏼"), ("flexed_biceps_medium_skin_tone", "💪🏽"),
   ("flipper", "🐬"), ("floppy_disk", "💾"), ("flower_playing_cards", "🎴"), ("flushed", "😳"),
   ("flushed_face", "😳"), ("flying_disc", "🥏"), ("flying_saucer", "🛸"), ("fog", "🌫"),
   ("foggy", "🌁"), ("folded_hands", "🙏"), ("folded_hands_dark_skin_tone", "🙏🏿"),
   ("folded_hands_light_skin_tone", "🙏🏻"), ("folded_hands_medium-dark_skin_tone", "🙏🏾"),
   ("folded_hands_medium-light_skin_tone", "🙏🏼"), ("folded_hands_medium_skin_tone", "🙏🏽"),
   ("foot", "🦶"), ("football", "🏈"), ("footprints", "👣"), ("fork_and_knife", "🍴"),
   ("fork_and_knife_with_plate", "🍽"), ("fortune_cookie", "🥠"), ("fountain", "\u26f2"),
   ("fountain_pen", "🖋"), ("four", "\u0034\ufe0f\u20e3"), ("four-thirty", "🕟"),
   ("four_leaf_clover", "🍀"), ("four_o’clock", "🕓"), ("fox_face", "🦊"), ("frame_with_picture", "🖼"),
   ("framed_picture", "🖼"), ("france", "🇫🇷"), ("free", "🆓"), ("free_button", "🆓"),
   ("french_fries", "🍟"), ("french_guiana", "🇬🇫"), ("french_polynesia", "🇵🇫"),
   ("french_southern_territories", "🇹🇫"), ("fried_shrimp", "🍤"), ("fries", "🍟"), ("frog", "🐸"),
   ("frog_face", "🐸"), ("front-facing_baby_chick", "🐥"), ("frowning", "😦"),
   ("frowning_face", "\u2639"), ("frowning_face_with_open_mouth", "😦"), ("fuel_pump", "\u26fd"),
   ("fuelpump", "\u26fd"), ("full_moon", "🌕"), ("full_moon_face", "🌝"),
   ("full_moon_with_face", "🌝"), ("funeral_urn", "\u26b1")]

/-- The flags of countries and territories, whose names start with `flag_for_`. -/
def countryFlags : List (String × String) :=
  [("flag_for_afghanistan", "🇦🇫"), ("flag_for_albania", "🇦🇱"), ("flag_for_algeria", "🇩🇿"),
   ("flag_for_american_samoa", "🇦🇸"), ("flag_for_andorra", "🇦🇩"), ("flag_for_angola", "🇦🇴"),
   ("flag_for_anguilla", "🇦🇮"), ("flag_for_antarctica", "🇦🇶"), ("flag_for_antigua_&_barbuda", "🇦🇬"),
   ("flag_for_argentina", "🇦🇷"), ("flag_for_armenia", "🇦🇲"), ("flag_for_aruba", "🇦🇼"),
   ("flag_for_ascension_island", "🇦🇨"), ("flag_for_australia", "🇦🇺"), ("flag_for_austria", "🇦🇹"),
   ("flag_for_azerbaijan", "🇦🇿"), ("flag_for_bahamas", "🇧🇸"), ("flag_for_bahrain", "🇧🇭"),
   ("flag_for_bangladesh", "🇧🇩"), ("flag_for_barbados", "🇧🇧"), ("flag_for_belarus", "🇧🇾"),
   ("flag_for_belgium", "🇧🇪"), ("flag_for_belize", "🇧🇿"), ("flag_for_benin", "🇧🇯"),
   ("flag_for_bermuda", "🇧🇲"), ("flag_for_bhutan", "🇧🇹"), ("flag_for_bolivia", "🇧🇴"),
   ("flag_for_bosnia_&_herzegovina", "🇧🇦"), ("flag_for_botswana", "🇧🇼"),
   ("flag_for_bouvet_island", "🇧🇻"), ("flag_for_brazil", "🇧🇷"),
   ("flag_for_british_indian_ocean_territory", "🇮🇴"), ("flag_for_british_virgin_islands", "🇻🇬"),
   ("flag_for_brunei", "🇧🇳"), ("flag_for_bulgaria", "🇧🇬"), ("flag_for_burkina_faso", "🇧🇫"),
   ("flag_for_burundi", "🇧🇮"), ("flag_for_cambodia", "🇰🇭"), ("flag_for_cameroon", "🇨🇲"),
   ("flag_for_canada", "🇨🇦"), ("flag_for_canary_islands", "🇮🇨"), ("flag_for_cape_verde", "🇨🇻"),
   ("flag_for_caribbean_netherlands", "🇧🇶"), ("flag_for_cayman_islands", "🇰🇾"),
   ("flag_for_central_african_republic", "🇨🇫"), ("flag_for_ceuta_&_melilla", "🇪🇦"),
   ("flag_for_chad", "🇹🇩"), ("flag_for_chile", "🇨🇱"), ("flag_for_china", "🇨🇳"),
   ("flag_for_christmas_island", "🇨🇽"), ("flag_for_clipperton_island", "🇨🇵"),
   ("flag_for_cocos__islands", "🇨🇨"), ("flag_for_colombia", "🇨🇴"), ("flag_for_comoros", "🇰🇲"),
   ("flag_for_congo____brazzaville", "🇨🇬"), ("flag_for_congo____kinshasa", "🇨🇩"),
   ("flag_for_cook_islands", "🇨🇰"), ("flag_for_costa_rica", "🇨🇷"), ("flag_for_croatia", "🇭🇷"),
   ("flag_for_cuba", "🇨🇺"), ("flag_for_curaçao", "🇨🇼"), ("flag_for_cyprus", "🇨🇾"),
   ("flag_for_czech_republic", "🇨🇿"), ("flag_for_côte_d’ivoire", "🇨🇮"), ("flag_for_denmark", "🇩🇰"),
   ("flag_for_diego_garcia", "🇩🇬"), ("flag_for_djibouti", "🇩🇯"), ("flag_for_dominica", "🇩🇲"),
   ("flag_for_dominican_republic", "🇩🇴"), ("flag_for_ecuador", "🇪🇨"), ("flag_for_egypt", "🇪🇬"),
   ("flag_for_el_salvador", "🇸🇻"), ("flag_for_equatorial_guinea", "🇬🇶"), ("flag_for_eritrea", "🇪🇷"),
   ("flag_for_estonia", "🇪🇪"), ("flag_for_ethiopia", "🇪🇹"), ("flag_for_european_union", "🇪🇺"),
   ("flag_for_falkland_islands", "🇫🇰"), ("flag_for_faroe_islands", "🇫🇴"), ("flag_for_fiji", "🇫🇯"),
   ("flag_for_finland", "🇫🇮"), ("flag_for_france", "🇫🇷"), ("flag_for_french_guiana", "🇬🇫"),
   ("flag_for_french_polynesia", "🇵🇫"), ("flag_for_french_southern_territories", "🇹🇫"),
   ("flag_for_gabon", "🇬🇦"), ("flag_for_gambia", "🇬🇲"), ("flag_for_georgia", "🇬🇪"),
   ("flag_for_germany", "🇩🇪"), ("flag_for_ghana", "🇬🇭"), ("flag_for_gibraltar", "🇬🇮"),
   ("flag_for_greece", "🇬🇷"), ("flag_for_greenland", "🇬🇱"), ("flag_for_grenada", "🇬🇩"),
   ("flag_for_guadeloupe", "🇬🇵"), ("flag_for_guam", "🇬🇺"), ("flag_for_guatemala", "🇬🇹"),
   ("flag_for_guernsey", "🇬🇬"), ("flag_for_guinea", "🇬🇳"), ("flag_for_guinea__bissau", "🇬🇼"),
   ("flag_for_guyana", "🇬🇾"), ("flag_for_haiti", "🇭🇹"), ("flag_for_heard_&_mcdonald_islands", "🇭🇲"),
   ("flag_for_honduras", "🇭🇳"), ("flag_for_hong_kong", "🇭🇰"), ("flag_for_hungary", "🇭🇺"),
   ("flag_for_iceland", "🇮🇸"), ("flag_for_india", "🇮🇳"), ("flag_for_indonesia", "🇮🇩"),
   ("flag_for_iran", "🇮🇷"), ("flag_for_iraq", "🇮🇶"), ("flag_for_ireland", "🇮🇪"),
   ("flag_for_isle_of_man", "🇮🇲"), ("flag_for_israel", "🇮🇱"), ("flag_for_italy", "🇮🇹"),
   ("flag_for_jamaica", "🇯🇲"), ("flag_for_japan", "🇯🇵"), ("flag_for_jersey", "🇯🇪"),
   ("flag_for_jordan", "🇯🇴"), ("flag_for_kazakhstan", "🇰🇿"), ("flag_for_kenya", "🇰🇪"),
   ("flag_for_kiribati", "🇰🇮"), ("flag_for_kosovo", "🇽🇰"), ("flag_for_kuwait", "🇰🇼"),
   ("flag_for_kyrgyzstan", "🇰🇬"), ("flag_for_laos", "🇱🇦"), ("flag_for_latvia", "🇱🇻"),
   ("flag_for_lebanon", "🇱🇧"), ("flag_for_lesotho", "🇱🇸"), ("flag_for_liberia", "🇱🇷"),
   ("flag_for_libya", "🇱🇾"), ("flag_for_liechtenstein", "🇱🇮"), ("flag_for_lithuania", "🇱🇹"),
   ("flag_for_luxembourg", "🇱🇺"), ("flag_for_macau", "🇲🇴"), ("flag_for_macedonia", "🇲🇰"),
   ("flag_for_madagascar", "🇲🇬"), ("flag_for_malawi", "🇲🇼"), ("flag_for_malaysia", "🇲🇾"),
   ("flag_for_maldives", "🇲🇻"), ("flag_for_mali", "🇲🇱"), ("flag_for_malta", "🇲🇹"),
   ("flag_for_marshall_islands", "🇲🇭"), ("flag_for_martinique", "🇲🇶"),
   ("flag_for_mauritania", "🇲🇷"), ("flag_for_mauritius", "🇲🇺"), ("flag_for_mayotte", "🇾🇹"),
   ("flag_for_mexico", "🇲🇽"), ("flag_for_micronesia", "🇫🇲"), ("flag_for_moldova", "🇲🇩"),
   ("flag_for_monaco", "🇲🇨"), ("flag_for_mongolia", "🇲🇳"), ("flag_for_montenegro", "🇲🇪"),
   ("flag_for_montserrat", "🇲🇸"), ("flag_for_morocco", "🇲🇦"), ("flag_for_mozambique", "🇲🇿"),
   ("flag_for_myanmar", "🇲🇲"), ("flag_for_namibia", "🇳🇦"), ("flag_for_nauru", "🇳🇷"),
   ("flag_for_nepal", "🇳🇵"), ("flag_for_netherlands", "🇳🇱"), ("flag_for_new_caledonia", "🇳🇨"),
   ("flag_for_new_zealand", "🇳🇿"), ("flag_for_nicaragua", "🇳🇮"), ("flag_for_niger", "🇳🇪"),
   ("flag_for_nigeria", "🇳🇬"), ("flag_for_niue", "🇳🇺"), ("flag_for_norfolk_island", "🇳🇫"),
   ("flag_for_north_korea", "🇰🇵"), ("flag_for_northern_mariana_islands", "🇲🇵"),
   ("flag_for_norway", "🇳🇴"), ("flag_for_oman", "🇴🇲"), ("flag_for_pakistan", "🇵🇰"),
   ("flag_for_palau", "🇵🇼"), ("flag_for_palestinian_territories", "🇵🇸"), ("flag_for_panama", "🇵🇦"),
   ("flag_for_papua_new_guinea", "🇵🇬"), ("flag_for_paraguay", "🇵🇾"), ("flag_for_peru", "🇵🇪"),
   ("flag_for_philippines", "🇵🇭"), ("flag_for_pitcairn_islands", "🇵🇳"), ("flag_for_poland", "🇵🇱"),
   ("flag_for_portugal", "🇵🇹"), ("flag_for_puerto_rico", "🇵🇷"), ("flag_for_qatar", "🇶🇦"),
   ("flag_for_romania", "🇷🇴"), ("flag_for_russia", "🇷🇺"), ("flag_for_rwanda", "🇷🇼"),
   ("flag_for_réunion", "🇷🇪"), ("flag_for_samoa", "🇼🇸"), ("flag_for_san_marino", "🇸🇲"),
   ("flag_for_saudi_arabia", "🇸🇦"), ("flag_for_senegal", "🇸🇳"), ("flag_for_serbia", "🇷🇸"),
   ("flag_for_seychelles", "🇸🇨"), ("flag_for_sierra_leone", "🇸🇱"), ("flag_for_singapore", "🇸🇬"),
   ("flag_for_sint_maarten", "🇸🇽"), ("flag_for_slovakia", "🇸🇰"), ("flag_for_slovenia", "🇸🇮"),
   ("flag_for_solomon_islands", "🇸🇧"), ("flag_for_somalia", "🇸🇴"), ("flag_for_south_africa", "🇿🇦"),
   ("flag_for_south_georgia_&_south_sandwich_islands", "🇬🇸"), ("flag_for_south_korea", "🇰🇷"),
   ("flag_for_south_sudan", "🇸🇸"), ("flag_for_spain", "🇪🇸"), ("flag_for_sri_lanka", "🇱🇰"),
   ("flag_for_st._barthélemy", "🇧🇱"), ("flag_for_st._helena", "🇸🇭"),
   ("flag_for_st._kitts_&_nevis", "🇰🇳"), ("flag_for_st._lucia", "🇱🇨"),
   ("flag_for_st._martin", "🇲🇫"), ("flag_for_st._pierre_&_miquelon", "🇵🇲"),
   ("flag_for_st._vincent_&_grenadines", "🇻🇨"), ("flag_for_sudan", "🇸🇩"),
   ("flag_for_suriname", "🇸🇷"), ("flag_for_svalbard_&_jan_mayen", "🇸🇯"),
   ("flag_for_swaziland", "🇸🇿"), ("flag_for_sweden", "🇸🇪"), ("flag_for_switzerland", "🇨🇭"),
   ("flag_for_syria", "🇸🇾"), ("flag_for_são_tomé_&_príncipe", "🇸🇹"), ("flag_for_taiwan", "🇹🇼"),
   ("flag_for_tajikistan", "🇹🇯"), ("flag_for_tanzania", "🇹🇿"), ("flag_for_thailand", "🇹🇭"),
   ("flag_for_timor__leste", "🇹🇱"), ("flag_for_togo", "🇹🇬"), ("flag_for_tokelau", "🇹🇰"),
   ("flag_for_tonga", "🇹🇴"), ("flag_for_trinidad_&_tobago", "🇹🇹"),
   ("flag_for_tristan_da_cunha", "🇹🇦"), ("flag_for_tunisia", "🇹🇳"), ("flag_for_turkey", "🇹🇷"),
   ("flag_for_turkmenistan", "🇹🇲"), ("flag_for_turks_&_caicos_islands", "🇹🇨"),
   ("flag_for_tuvalu", "🇹🇻"), ("flag_for_u.s._outlying_islands", "🇺🇲"),
   ("flag_for_u.s._virgin_islands", "🇻🇮"), ("flag_for_uganda", "🇺🇬"), ("flag_for_ukraine", "🇺🇦"),
   ("flag_for_united_arab_emirates", "🇦🇪"), ("flag_for_united_kingdom", "🇬🇧"),
   ("flag_for_united_states", "🇺🇸"), ("flag_for_uruguay", "🇺🇾"), ("flag_for_uzbekistan", "🇺🇿"),
   ("flag_for_vanuatu", "🇻🇺"), ("flag_for_vatican_city", "🇻🇦"), ("flag_for_venezuela", "🇻🇪"),
   ("flag_for_vietnam", "🇻🇳"), ("flag_for_wallis_&_futuna", "🇼🇫"),
   ("flag_for_western_sahara", "🇪🇭"), ("flag_for_yemen", "🇾🇪"), ("flag_for_zambia", "🇿🇲"),
   ("flag_for_zimbabwe", "🇿🇼"), ("flag_for_åland_islands", "🇦🇽")]

/-- The pictures whose names start with `g` or `h`. -/
def picturesUnderGToH : List (String × String) :=
  [("gabon", "🇬🇦"), ("gambia", "🇬🇲"), ("game_die", "🎲"), ("garlic", "🧄"), ("gear", "\u2699"),
   ("gem", "💎"), ("gem_stone", "💎"), ("gemini", "\u264a"), ("genie", "🧞"), ("georgia", "🇬🇪"),
   ("germany", "🇩🇪"), ("ghana", "🇬🇭"), ("ghost", "👻"), ("gibraltar", "🇬🇮"), ("gift", "🎁"),
   ("gift_heart", "💝"), ("giraffe", "🦒"), ("girl", "👧"), ("girl_dark_skin_tone", "👧🏿"),
   ("girl_light_skin_tone", "👧🏻"), ("girl_medium-dark_skin_tone", "👧🏾"),
   ("girl_medium-light_skin_tone", "👧🏼"), ("girl_medium_skin_tone", "👧🏽"), ("glass_of_milk", "🥛"),
   ("glasses", "👓"), ("globe_showing_americas", "🌎"), ("globe_showing_asia-australia", "🌏"),
   ("globe_showing_europe-africa", "🌍"), ("globe_with_meridians", "🌐"), ("gloves", "🧤"),
   ("glowing_star", "🌟"), ("goal_net", "🥅"), ("goat", "🐐"), ("goblin", "👺"), ("goggles", "🥽"),
   ("golf", "\u26f3"), ("golfer", "🏌"), ("gorilla", "🦍"), ("graduation_cap", "🎓"), ("grapes", "🍇"),
   ("greece", "🇬🇷"), ("green_apple", "🍏"), ("green_book", "📗"), ("green_circle", "🟢"),
   ("green_heart", "💚"), ("green_salad", "🥗"), ("green_square", "🟩"), ("greenland", "🇬🇱"),
   ("grenada", "🇬🇩"), ("grey_exclamation", "\u2755"), ("grey_question", "\u2754"),
   ("grimacing", "😬"), ("grimacing_face", "😬"), ("grin", "😁"), ("grinning", "😀"),
   ("grinning_cat_face", "😺"), ("grinning_cat_face_with_smiling_eyes", "😸"), ("grinning_face", "😀"),
   ("grinning_face_with_big_eyes", "😃"), ("grinning_face_with_smiling_eyes", "😄"),
   ("grinning_face_with_sweat", "😅"), ("grinning_squinting_face", "😆"), ("growing_heart", "💗"),
   ("guadeloupe", "🇬🇵"), ("guam", "🇬🇺"), ("guard", "💂"), ("guard_dark_skin_tone", "💂🏿"),
   ("guard_light_skin_tone", "💂🏻"), ("guard_medium-dark_skin_tone", "💂🏾"),
   ("guard_medium-light_skin_tone", "💂🏼"), ("guard_medium_skin_tone", "💂🏽"), ("guardsman", "💂"),
   ("guatemala", "🇬🇹"), ("guernsey", "🇬🇬"), ("guide_dog", "🦮"), ("guinea", "🇬🇳"),
   ("guinea-bissau", "🇬🇼"), ("guitar", "🎸"), ("gun", "🔫"), ("guyana", "🇬🇾"), ("haircut", "💇"),
   ("haiti", "🇭🇹"), ("hamburger", "🍔"), ("hammer", "🔨"), ("hammer_and_pick", "\u2692"),
   ("hammer_and_wrench", "🛠"), ("hamster", "🐹"), ("hamster_face", "🐹"), ("hand", "\u270b"),
   ("hand_with_fingers_splayed", "🖐"), ("hand_with_fingers_splayed_dark_skin_tone", "🖐🏿"),
   ("hand_with_fingers_splayed_light_skin_tone", "🖐🏻"),
   ("hand_with_fingers_splayed_medium-dark_skin_tone", "🖐🏾"),
   ("hand_with_fingers_splayed_medium-light_skin_tone", "🖐🏼"),
   ("hand_with_fingers_splayed_medium_skin_tone", "🖐🏽"), ("handbag", "👜"), ("handshake", "🤝"),
   ("hankey", "💩"), ("hatched_chick", "🐥"), ("hatching_chick", "🐣"), ("headphone", "🎧"),
   ("headphones", "🎧"), ("hear-no-evil_monkey", "🙉"), ("hear_no_evil", "🙉"),
   ("heard_&_mcdonald_islands", "🇭🇲"), ("heart", "\u2764"), ("heart_decoration", "💟"),
   ("heart_eyes", "😍"), ("heart_eyes_cat", "😻"), ("heart_suit", "\u2665"),
   ("heart_with_arrow", "💘"), ("heart_with_ribbon", "💝"), ("heartbeat", "💓"), ("heartpulse", "💗"),
   ("hearts", "\u2665"), ("heavy_check_mark", "\u2714"), ("heavy_division_sign", "\u2797"),
   ("heavy_dollar_sign", "💲"), ("heavy_exclamation_mark", "\u2757"),
   ("heavy_heart_exclamation", "\u2763"), ("heavy_heart_exclamation_mark_ornament", "\u2763"),
   ("heavy_large_circle", "\u2b55"), ("heavy_minus_sign", "\u2796"),
   ("heavy_multiplication_x", "\u2716"), ("heavy_plus_sign", "\u2795"), ("hedgehog", "🦔"),
   ("helicopter", "🚁"), ("helm_symbol", "\u2388"), ("helmet_with_white_cross", "\u26d1"),
   ("herb", "🌿"), ("hibiscus", "🌺"), ("high-heeled_shoe", "👠"), ("high-speed_train", "🚄"),
   ("high_brightness", "🔆"), ("high_heel", "👠"), ("high_voltage", "\u26a1"), ("hiking_boot", "🥾"),
   ("hindu_temple", "🛕"), ("hippopotamus", "🦛"), ("hocho", "🔪"), ("hole", "🕳"), ("honduras", "🇭🇳"),
   ("honey_pot", "🍯"), ("honeybee", "🐝"), ("hong_kong_sar_china", "🇭🇰"),
   ("horizontal_traffic_light", "🚥"), ("horse", "🐴"), ("horse_face", "🐴"), ("horse_racing", "🏇"),
   ("horse_racing_dark_skin_tone", "🏇🏿"), ("horse_racing_light_skin_tone", "🏇🏻"),
   ("horse_racing_medium-dark_skin_tone", "🏇🏾"), ("horse_racing_medium-light_skin_tone", "🏇🏼"),
   ("horse_racing_medium_skin_tone", "🏇🏽"), ("hospital", "🏥"), ("hot_beverage", "\u2615"),
   ("hot_dog", "🌭"), ("hot_face", "🥵"), ("hot_pepper", "🌶"), ("hot_springs", "\u2668"),
   ("hotel", "🏨"), ("hotsprings", "\u2668"), ("hourglass", "\u231b"), ("hourglass_done", "\u231b"),
   ("hourglass_flowing_sand", "\u23f3"), ("hourglass_not_done", "\u23f3"), ("house", "🏠"),
   ("house_buildings", "🏘"), ("house_with_garden", "🏡"), ("houses", "🏘"), ("hugging_face", "🤗"),
   ("hundred_points", "💯"), ("hungary", "🇭🇺"), ("hushed", "😯"), ("hushed_face", "😯")]

/-- The pictures whose names start with `i`, `j` or `k`. -/
def picturesUnderIToK : List (String × String) :=
  [("ice", "🧊"), ("ice_cream", "🍨"), ("ice_hockey", "🏒"), ("ice_hockey_stick_and_puck", "🏒"),
   ("ice_skate", "\u26f8"), ("icecream", "🍦"), ("iceland", "🇮🇸"), ("id", "🆔"), ("id_button", "🆔"),
   ("ideograph_advantage", "🉐"), ("imp", "👿"), ("inbox_tray", "📥"), ("incoming_envelope", "📨"),
   ("index_pointing_up", "\u261d"), ("index_pointing_up_dark_skin_tone", "\u261d🏿"),
   ("index_pointing_up_light_skin_tone", "\u261d🏻"),
   ("index_pointing_up_medium-dark_skin_tone", "\u261d🏾"),
   ("index_pointing_up_medium-light_skin_tone", "\u261d🏼"),
   ("index_pointing_up_medium_skin_tone", "\u261d🏽"), ("india", "🇮🇳"), ("indonesia", "🇮🇩"),
   ("infinity", "\u267e"), ("information", "\u2139"), ("information_desk_person", "💁"),
   ("information_source", "\u2139"), ("innocent", "😇"), ("input_latin_letters", "🔤"),
   ("input_latin_lowercase", "🔡"), ("input_latin_uppercase", "🔠"), ("input_numbers", "🔢"),
   ("input_symbols", "🔣"), ("interrobang", "\u2049"), ("iphone", "📱"), ("iran", "🇮🇷"),
   ("iraq", "🇮🇶"), ("ireland", "🇮🇪"), ("isle_of_man", "🇮🇲"), ("israel", "🇮🇱"), ("italy", "🇮🇹"),
   ("izakaya_lantern", "🏮"), ("jack-o-lantern", "🎃"), ("jack_o_lantern", "🎃"), ("jamaica", "🇯🇲"),
   ("japan", "🗾"), ("japanese_acceptable_button", "🉑"), ("japanese_application_button", "🈸"),
   ("japanese_bargain_button", "🉐"), ("japanese_castle", "🏯"),
   ("japanese_congratulations_button", "\u3297"), ("japanese_discount_button", "🈹"),
   ("japanese_dolls", "🎎"), ("japanese_free_of_charge_button", "🈚"), ("japanese_goblin", "👺"),
   ("japanese_here_button", "🈁"), ("japanese_monthly_amount_button", "🈷"),
   ("japanese_no_vacancy_button", "🈵"), ("japanese_not_free_of_charge_button", "🈶"),
   ("japanese_ogre", "👹"), ("japanese_open_for_business_button", "🈺"),
   ("japanese_passing_grade_button", "🈴"), ("japanese_post_office", "🏣"),
   ("japanese_prohibited_button", "🈲"), ("japanese_reserved_button", "🈯"),
   ("japanese_secret_button", "\u3299"), ("japanese_service_charge_button", "🈂"),
   ("japanese_symbol_for_beginner", "🔰"), ("japanese_vacancy_button", "🈳"), ("jeans", "👖"),
   ("jersey", "🇯🇪"), ("jigsaw", "🧩"), ("joker", "🃏"), ("jordan", "🇯🇴"), ("joy", "😂"),
   ("joy_cat", "😹"), ("joystick", "🕹"), ("kaaba", "🕋"), ("kangaroo", "🦘"), ("kazakhstan", "🇰🇿"),
   ("kenya", "🇰🇪"), ("key", "🔑"), ("keyboard", "\u2328"), ("keycap_#", "\u0023\ufe0f\u20e3"),
   ("keycap_*", "\u002a\ufe0f\u20e3"), ("keycap_0", "\u0030\ufe0f\u20e3"),
   ("keycap_1", "\u0031\ufe0f\u20e3"), ("keycap_10", "🔟"), ("keycap_2", "\u0032\ufe0f\u20e3"),
   ("keycap_3", "\u0033\ufe0f\u20e3"), ("keycap_4", "\u0034\ufe0f\u20e3"),
   ("keycap_5", "\u0035\ufe0f\u20e3"), ("keycap_6", "\u0036\ufe0f\u20e3"),
   ("keycap_7", "\u0037\ufe0f\u20e3"), ("keycap_8", "\u0038\ufe0f\u20e3"),
   ("keycap_9", "\u0039\ufe0f\u20e3"), ("keycap_asterisk", "\u002a\u20e3"),
   ("keycap_digit_eight", "\u0038\u20e3"), ("keycap_digit_five", "\u0035\u20e3"),
   ("keycap_digit_four", "\u0034\u20e3"), ("keycap_digit_nine", "\u0039\u20e3"),
   ("keycap_digit_one", "\u0031\u20e3"), ("keycap_digit_seven", "\u0037\u20e3"),
   ("keycap_digit_six", "\u0036\u20e3"), ("keycap_digit_three", "\u0033\u20e3"),
   ("keycap_digit_two", "\u0032\u20e3"), ("keycap_digit_zero", "\u0030\u20e3"),
   ("keycap_number_sign", "\u0023\u20e3"), ("kick_scooter", "🛴"), ("kimono", "👘"),
   ("kiribati", "🇰🇮"), ("kiss", "💋"), ("kiss_man_man", "👨\u200d\u2764\ufe0f\u200d💋\u200d👨"),
   ("kiss_mark", "💋"), ("kiss_woman_man", "👩\u200d\u2764\ufe0f\u200d💋\u200d👨"),
   ("kiss_woman_woman", "👩\u200d\u2764\ufe0f\u200d💋\u200d👩"), ("kissing", "😗"),
   ("kissing_cat", "😽"), ("kissing_cat_face", "😽"), ("kissing_closed_eyes", "😚"),
   ("kissing_face", "😗"), ("kissing_face_with_closed_eyes", "😚"),
   ("kissing_face_with_smiling_eyes", "😙"), ("kissing_heart", "😘"), ("kissing_smiling_eyes", "😙"),
   ("kitchen_knife", "🔪"), ("kite", "🪁"), ("kiwi_fruit", "🥝"), ("knife", "🔪"), ("koala", "🐨"),
   ("koko", "🈁"), ("kosovo", "🇽🇰"), ("kuwait", "🇰🇼"), ("kyrgyzstan", "🇰🇬")]

/-- The pictures whose names start with `l`. -/
def picturesUnderL : List (String × String) :=
  [("lab_coat", "🥼"), ("label", "🏷"), ("lacrosse", "🥍"), ("lady_beetle", "🐞"), ("lantern", "🏮"),
   ("laos", "🇱🇦"), ("laptop_computer", "💻"), ("large_blue_circle", "🔵"),
   ("large_blue_diamond", "🔷"), ("large_orange_diamond", "🔶"), ("last_quarter_moon", "🌗"),
   ("last_quarter_moon_face", "🌜"), ("last_quarter_moon_with_face", "🌜"),
   ("last_track_button", "\u23ee"), ("latin_cross", "\u271d"), ("latvia", "🇱🇻"), ("laughing", "😆"),
   ("leaf_fluttering_in_wind", "🍃"), ("leafy_green", "🥬"), ("leaves", "🍃"), ("lebanon", "🇱🇧"),
   ("ledger", "📒"), ("left-facing_fist", "🤛"), ("left-facing_fist_dark_skin_tone", "🤛🏿"),
   ("left-facing_fist_light_skin_tone", "🤛🏻"), ("left-facing_fist_medium-dark_skin_tone", "🤛🏾"),
   ("left-facing_fist_medium-light_skin_tone", "🤛🏼"), ("left-facing_fist_medium_skin_tone", "🤛🏽"),
   ("left-right_arrow", "\u2194"), ("left_arrow", "\u2b05"), ("left_arrow_curving_right", "\u21aa"),
   ("left_luggage", "🛅"), ("left_right_arrow", "\u2194"), ("left_speech_bubble", "🗨"),
   ("leftwards_arrow_with_hook", "\u21a9"), ("leg", "🦵"), ("lemon", "🍋"), ("leo", "\u264c"),
   ("leopard", "🐆"), ("lesotho", "🇱🇸"), ("level_slider", "🎚"), ("liberia", "🇱🇷"),
   ("libra", "\u264e"), ("libya", "🇱🇾"), ("liechtenstein", "🇱🇮"), ("light_bulb", "💡"),
   ("light_rail", "🚈"), ("light_skin_tone", "🏻"), ("link", "🔗"), ("linked_paperclips", "🖇"),
   ("lion_face", "🦁"), ("lips", "👄"), ("lipstick", "💄"), ("lithuania", "🇱🇹"),
   ("litter_in_bin_sign", "🚮"), ("lizard", "🦎"), ("llama", "🦙"), ("lobster", "🦞"), ("lock", "🔒"),
   ("lock_with_ink_pen", "🔏"), ("locked", "🔒"), ("locked_with_key", "🔐"), ("locked_with_pen", "🔏"),
   ("locomotive", "🚂"), ("lollipop", "🍭"), ("loop", "\u27bf"), ("lotion_bottle", "🧴"),
   ("loud_sound", "🔊"), ("loudly_crying_face", "😭"), ("loudspeaker", "📢"),
   ("love-you_gesture", "🤟"), ("love-you_gesture_dark_skin_tone", "🤟🏿"),
   ("love-you_gesture_light_skin_tone", "🤟🏻"), ("love-you_gesture_medium-dark_skin_tone", "🤟🏾"),
   ("love-you_gesture_medium-light_skin_tone", "🤟🏼"), ("love-you_gesture_medium_skin_tone", "🤟🏽"),
   ("love_hotel", "🏩"), ("love_letter", "💌"), ("low_brightness", "🔅"),
   ("lower_left_ballpoint_pen", "🖊"), ("lower_left_crayon", "🖍"), ("lower_left_fountain_pen", "🖋"),
   ("lower_left_paintbrush", "🖌"), ("luggage", "🧳"), ("luxembourg", "🇱🇺"), ("lying_face", "🤥")]

end PageScript.Console.Picture
