/-
This file lists the emoji that have names, each after its names.
-/

namespace ClientModel.Emoji

/-- The emoji, separated by blanks: the names with a colon between two, an equals sign, and the
emoji. A name with a tilde also names the emoji in five skin tones. -/
def lines : List String := [
  "1st_place_medal=🥇 2nd_place_medal=🥈 3rd_place_medal=🥉 a_button_(blood_type):a=🅰",
  "ab_button_(blood_type):ab=🆎 abacus=🧮 adhesive_bandage=🩹 admission_tickets=🎟 adult~=🧑",
  "aerial_tramway=🚡 afghanistan:flag_for_afghanistan=🇦🇫 airplane=✈",
  "airplane_arrival:airplane_arriving=🛬 airplane_departure=🛫 alarm_clock=⏰",
  "albania:flag_for_albania=🇦🇱 alembic=⚗ algeria:flag_for_algeria=🇩🇿 alien=👽",
  "alien_monster:space_invader=👾 ambulance=🚑 american_football:football=🏈",
  "american_samoa:flag_for_american_samoa=🇦🇸 amphora=🏺 anchor=⚓ andorra:flag_for_andorra=🇦🇩",
  "anger_symbol:anger=💢 angola:flag_for_angola=🇦🇴 angry_face:angry=😠",
  "angry_face_with_horns:imp=👿 anguilla:flag_for_anguilla=🇦🇮 anguished_face:anguished=😧 ant=🐜",
  "antarctica:flag_for_antarctica=🇦🇶 antenna_bars:signal_strength=📶",
  "antigua_&_barbuda:flag_for_antigua_&_barbuda=🇦🇬 anxious_face_with_sweat:cold_sweat=😰",
  "aquarius=♒ argentina:flag_for_argentina=🇦🇷 aries=♈ armenia:flag_for_armenia=🇦🇲",
  "articulated_lorry=🚛 artist_palette:art=🎨 aruba:flag_for_aruba=🇦🇼",
  "ascension_island:flag_for_ascension_island=🇦🇨 astonished_face:astonished=😲 atm_sign:atm=🏧",
  "atom_symbol=⚛ australia:flag_for_australia=🇦🇺 austria:flag_for_austria=🇦🇹 auto_rickshaw=🛺",
  "automobile:car:red_car=🚗 avocado=🥑 axe=🪓 azerbaijan:flag_for_azerbaijan=🇦🇿",
  "b_button_(blood_type):b=🅱 baby_angel~:angel=👼 baby_bottle=🍼 baby_chick=🐤 baby_symbol=🚼",
  "baby~=👶 back_arrow:back=🔙 backhand_index_pointing_down~:point_down=👇",
  "backhand_index_pointing_left~:point_left=👈 backhand_index_pointing_right~:point_right=👉",
  "backhand_index_pointing_up~:point_up_2=👆 bacon=🥓 badger=🦡",
  "badminton:badminton_racquet_and_shuttlecock=🏸 bagel=🥯 baggage_claim=🛄 baguette_bread=🥖",
  "bahamas:flag_for_bahamas=🇧🇸 bahrain:flag_for_bahrain=🇧🇭 balance_scale:scales=⚖ bald=🦲",
  "bald_man=👨\u200D🦲 bald_woman=👩\u200D🦲 ballet_shoes=🩰 balloon=🎈 ballot_box_with_ballot=🗳",
  "ballot_box_with_check=☑ banana=🍌 bangladesh:flag_for_bangladesh=🇧🇩 banjo=🪕 bank=🏦",
  "bar_chart=📊 barbados:flag_for_barbados=🇧🇧 barber_pole:barber=💈 baseball=⚾ basket=🧺",
  "basketball=🏀 bat=🦇 bathtub=🛁 battery=🔋 beach_with_umbrella=🏖",
  "beaming_face_with_smiling_eyes:grin=😁 bear_face:bear=🐻 bearded_person~=🧔",
  "beating_heart:heartbeat=💓 bed=🛏 beer_mug:beer=🍺 belarus:flag_for_belarus=🇧🇾",
  "belgium:flag_for_belgium=🇧🇪 belize:flag_for_belize=🇧🇿 bell=🔔 bell_with_slash:no_bell=🔕",
  "bellhop_bell=🛎 benin:flag_for_benin=🇧🇯 bento_box:bento=🍱 bermuda:flag_for_bermuda=🇧🇲",
  "beverage_box=🧃 bhutan:flag_for_bhutan=🇧🇹 bicycle:bike=🚲 bikini=👙 billed_cap=🧢",
  "biohazard:biohazard_sign=☣ bird=🐦 birthday_cake:birthday=🎂 black_circle=⚫",
  "black_flag:waving_black_flag=🏴 black_heart=🖤 black_large_square=⬛",
  "black_medium-small_square:black_medium_small_square=◾ black_medium_square=◼ black_nib=✒",
  "black_small_square=▪ black_square_button=🔲 blond-haired_man~=👱\u200D♂\uFE0F",
  "blond-haired_person~:person_with_blond_hair=👱 blond-haired_woman~=👱\u200D♀\uFE0F blossom=🌼",
  "blowfish=🐡 blue_book=📘 blue_circle:large_blue_circle=🔵 blue_heart=💙 blue_square=🟦 boar=🐗",
  "bolivia:flag_for_bolivia=🇧🇴 bomb=💣 bone=🦴 bookmark=🔖 bookmark_tabs=📑 books=📚",
  "bosnia_&_herzegovina:flag_for_bosnia_&_herzegovina=🇧🇦 botswana:flag_for_botswana=🇧🇼",
  "bottle_with_popping_cork=🍾 bouquet=💐 bouvet_island:flag_for_bouvet_island=🇧🇻",
  "bow_and_arrow=🏹 bowl_with_spoon=🥣 bowling=🎳 boxing_glove=🥊 boy~=👦 brain=🧠",
  "brazil:flag_for_brazil=🇧🇷 bread=🍞 breast-feeding~=🤱 brick=🧱 bride_with_veil~=👰",
  "bridge_at_night=🌉 briefcase=💼 briefs=🩲 bright_button:high_brightness=🔆",
  "british_indian_ocean_territory:flag_for_british_indian_ocean_territory=🇮🇴",
  "british_virgin_islands:flag_for_british_virgin_islands=🇻🇬 broccoli=🥦 broken_heart=💔",
  "broom=🧹 brown_circle=🟤 brown_heart=🤎 brown_square=🟫 brunei:flag_for_brunei=🇧🇳 bug=🐛",
  "building_construction=🏗 bulgaria:flag_for_bulgaria=🇧🇬 bullet_train:bullettrain_front=🚅",
  "burkina_faso:flag_for_burkina_faso=🇧🇫 burrito=🌯 burundi:flag_for_burundi=🇧🇮 bus=🚌",
  "bus_stop:busstop=🚏 bust_in_silhouette=👤 busts_in_silhouette=👥 butter=🧈 butterfly=🦋",
  "cactus=🌵 calendar:tear-off_calendar=📆 call_me_hand~=🤙 cambodia:flag_for_cambodia=🇰🇭",
  "camel:two-hump_camel=🐫 camera=📷 camera_with_flash=📸 cameroon:flag_for_cameroon=🇨🇲",
  "camping=🏕 canada:flag_for_canada=🇨🇦 canary_islands:flag_for_canary_islands=🇮🇨 cancer=♋",
  "candle=🕯 candy=🍬 canned_food=🥫 canoe=🛶 cape_verde:flag_for_cape_verde=🇨🇻 capricorn=♑",
  "card_file_box=🗃 card_index=📇 card_index_dividers=🗂",
  "caribbean_netherlands:flag_for_caribbean_netherlands=🇧🇶 carousel_horse=🎠",
  "carp_streamer:flags=🎏 carrot=🥕 castle:european_castle=🏰 cat:cat_face=🐱 cat2=🐈",
  "cat_face_with_tears_of_joy:joy_cat=😹 cat_face_with_wry_smile:smirk_cat=😼",
  "cayman_islands:flag_for_cayman_islands=🇰🇾",
  "central_african_republic:flag_for_central_african_republic=🇨🇫",
  "ceuta_&_melilla:flag_for_ceuta_&_melilla=🇪🇦 chad:flag_for_chad=🇹🇩 chains=⛓ chair=🪑",
  "chart_decreasing:chart_with_downwards_trend=📉 chart_increasing:chart_with_upwards_trend=📈",
  "chart_increasing_with_yen:chart=💹 cheese_wedge=🧀 chequered_flag:checkered_flag=🏁",
  "cherries=🍒 cherry_blossom=🌸 chess_pawn=♟ chestnut=🌰 chicken=🐔 children_crossing=🚸 child~=🧒",
  "chile:flag_for_chile=🇨🇱 china:flag_for_china=🇨🇳 chipmunk=🐿 chocolate_bar=🍫 chopsticks=🥢",
  "christmas_island:flag_for_christmas_island=🇨🇽 christmas_tree=🎄 church=⛪",
  "cigarette:smoking=🚬 cinema=🎦 circled_m:m=Ⓜ circus_tent=🎪 cityscape=🏙",
  "cityscape_at_dusk:city_sunset=🌆 cl_button:cl=🆑 clamp:compression=🗜 clapper_board:clapper=🎬",
  "clapping_hands~:clap=👏 classical_building=🏛 clinking_beer_mugs:beers=🍻 clinking_glasses=🥂",
  "clipboard=📋 clipperton_island:flag_for_clipperton_island=🇨🇵",
  "clockwise_vertical_arrows:arrows_clockwise=🔃 closed_book=📕",
  "closed_mailbox_with_lowered_flag:mailbox_closed=📪",
  "closed_mailbox_with_raised_flag:mailbox=📫 closed_umbrella=🌂 cloud=☁ cloud_with_lightning=🌩",
  "cloud_with_lightning_and_rain:thunder_cloud_and_rain=⛈ cloud_with_rain=🌧 cloud_with_snow=🌨",
  "clown_face=🤡 club_suit:clubs=♣ clutch_bag:pouch=👝 coat=🧥 cocktail_glass:cocktail=🍸",
  "coconut=🥥 cocos_(keeling)_islands:flag_for_cocos__islands=🇨🇨 coffin=⚰ cold_face=🥶",
  "collision:boom=💥 colombia:flag_for_colombia=🇨🇴 comet=☄ comoros:flag_for_comoros=🇰🇲",
  "compass=🧭 computer_disk:minidisc=💽 computer_mouse:three_button_mouse=🖱 confetti_ball=🎊",
  "confounded_face:confounded=😖 confused_face:confused=😕",
  "congo_-_brazzaville:flag_for_congo____brazzaville=🇨🇬",
  "congo_-_kinshasa:flag_for_congo____kinshasa=🇨🇩 construction=🚧 construction_worker~=👷",
  "control_knobs=🎛 convenience_store=🏪 cook_islands:flag_for_cook_islands=🇨🇰",
  "cooked_rice:rice=🍚 cookie=🍪 cooking:egg=🍳 cool_button:cool=🆒 copyright=©",
  "costa_rica:flag_for_costa_rica=🇨🇷 couch_and_lamp=🛋",
  "counterclockwise_arrows_button:arrows_counterclockwise=🔄 couple_with_heart=💑",
  "couple_with_heart_man_man=👨\u200D❤\uFE0F\u200D👨",
  "couple_with_heart_woman_man=👩\u200D❤\uFE0F\u200D👨",
  "couple_with_heart_woman_woman=👩\u200D❤\uFE0F\u200D👩 couplekiss=💏 cow:cow_face=🐮 cow2=🐄",
  "cowboy_hat_face=🤠 crab=🦀 crayon:lower_left_crayon=🖍 credit_card=💳 crescent_moon=🌙",
  "cricket=🦗 cricket_game:cricket_bat_and_ball=🏏 croatia:flag_for_croatia=🇭🇷 crocodile=🐊",
  "croissant=🥐 cross_mark:x=❌ cross_mark_button:negative_squared_cross_mark=❎",
  "crossed_fingers~=🤞 crossed_flags=🎌 crossed_swords=⚔ crown=👑 crying_cat_face=😿",
  "crying_face:cry=😢 crystal_ball=🔮 cuba:flag_for_cuba=🇨🇺 cucumber=🥒 cup_with_straw=🥤",
  "cupcake=🧁 curaçao:flag_for_curaçao=🇨🇼 curling_stone=🥌 curly-haired_man=👨\u200D🦱",
  "curly-haired_woman=👩\u200D🦱 curly_hair=🦱 curly_loop=➰ currency_exchange=💱",
  "curry_rice:curry=🍛 custard=🍮 customs=🛃 cut_of_meat=🥩 cyclone=🌀 cyprus:flag_for_cyprus=🇨🇾",
  "czechia:flag_for_czech_republic=🇨🇿 côte_d’ivoire:flag_for_côte_d’ivoire=🇨🇮",
  "dagger:dagger_knife=🗡 dango=🍡 dark_skin_tone:emoji_modifier_fitzpatrick_type__6=🏿",
  "dark_sunglasses=🕶 dashing_away:dash=💨 date=📅 deaf_person=🧏 deciduous_tree=🌳 deer=🦌",
  "delivery_truck:truck=🚚 denmark:flag_for_denmark=🇩🇰 department_store=🏬",
  "derelict_house:derelict_house_building=🏚 desert=🏜 desert_island=🏝 desktop_computer=🖥",
  "detective~:sleuth_or_spy=🕵 diamond_suit:diamonds=♦",
  "diamond_with_a_dot:diamond_shape_with_a_dot_inside=💠 diego_garcia:flag_for_diego_garcia=🇩🇬",
  "dim_button:low_brightness=🔅 direct_hit:dart=🎯 disappointed_face:disappointed=😞",
  "diving_mask=🤿 diya_lamp=🪔 dizzy=💫 dizzy_face=😵 djibouti:flag_for_djibouti=🇩🇯 dna=🧬",
  "dog:dog_face=🐶 dog2=🐕 dollar_banknote:dollar=💵 dolphin:flipper=🐬",
  "dominica:flag_for_dominica=🇩🇲 dominican_republic:flag_for_dominican_republic=🇩🇴 door=🚪",
  "dotted_six-pointed_star:six_pointed_star=🔯 double_curly_loop:loop=➿",
  "double_exclamation_mark:bangbang=‼ doughnut=🍩 dove:dove_of_peace=🕊",
  "down-left_arrow:arrow_lower_left=↙ down-right_arrow:arrow_lower_right=↘",
  "down_arrow:arrow_down=⬇ downcast_face_with_sweat:sweat=😓",
  "downwards_button:arrow_down_small=🔽 dragon=🐉 dragon_face=🐲 dress=👗 dromedary_camel=🐪",
  "drooling_face=🤤 drop_of_blood=🩸 droplet=💧 drum=🥁 duck=🦆 dumpling=🥟 dvd=📀 e-mail:e__mail=📧",
  "eagle=🦅 ear_of_corn:corn=🌽 ear_with_hearing_aid=🦻 ear~=👂 ecuador:flag_for_ecuador=🇪🇨",
  "eggplant=🍆 egypt:flag_for_egypt=🇪🇬 eight-pointed_star:eight_pointed_black_star=✴",
  "eight-spoked_asterisk:eight_spoked_asterisk=✳ eight-thirty:clock830=🕣",
  "eight_o’clock:clock8=🕗 eject_button:eject_symbol=⏏ el_salvador:flag_for_el_salvador=🇸🇻",
  "electric_plug=🔌 elephant=🐘 eleven-thirty:clock1130=🕦 eleven_o’clock:clock11=🕚 elf~=🧝",
  "end_arrow:end=🔚 england=🏴󠁧󠁢󠁥󠁮󠁧󠁿 envelope:email=✉ envelope_with_arrow=📩",
  "equatorial_guinea:flag_for_equatorial_guinea=🇬🇶 eritrea:flag_for_eritrea=🇪🇷",
  "estonia:flag_for_estonia=🇪🇪 ethiopia:flag_for_ethiopia=🇪🇹 euro_banknote:euro=💶",
  "european_post_office=🏤 european_union:flag_for_european_union=🇪🇺 evergreen_tree=🌲",
  "ewe:sheep=🐑 exclamation_mark:exclamation:heavy_exclamation_mark=❗",
  "exclamation_question_mark:interrobang=⁉ exploding_head=🤯",
  "expressionless_face:expressionless=😑 eye=👁 eye_in_speech_bubble=👁\uFE0F\u200D🗨\uFE0F",
  "eyes=👀 face_blowing_a_kiss:kissing_heart=😘 face_savoring_food:yum=😋",
  "face_screaming_in_fear:scream=😱 face_vomiting=🤮 face_with_hand_over_mouth=🤭",
  "face_with_head-bandage:face_with_head__bandage=🤕 face_with_medical_mask:mask=😷",
  "face_with_monocle=🧐 face_with_open_mouth:open_mouth=😮 face_with_raised_eyebrow=🤨",
  "face_with_rolling_eyes=🙄 face_with_steam_from_nose:triumph=😤 face_with_symbols_on_mouth=🤬",
  "face_with_tears_of_joy:joy=😂 face_with_thermometer=🤒 face_with_tongue:stuck_out_tongue=😛",
  "face_without_mouth:no_mouth=😶 factory=🏭 fairy~=🧚 falafel=🧆",
  "falkland_islands:flag_for_falkland_islands=🇫🇰 fallen_leaf=🍂 family=👪",
  "family_man_boy=👨\u200D👦 family_man_boy_boy=👨\u200D👦\u200D👦 family_man_girl=👨\u200D👧",
  "family_man_girl_boy=👨\u200D👧\u200D👦 family_man_girl_girl=👨\u200D👧\u200D👧",
  "family_man_man_boy=👨\u200D👨\u200D👦 family_man_man_boy_boy=👨\u200D👨\u200D👦\u200D👦",
  "family_man_man_girl=👨\u200D👨\u200D👧 family_man_man_girl_boy=👨\u200D👨\u200D👧\u200D👦",
  "family_man_man_girl_girl=👨\u200D👨\u200D👧\u200D👧 family_man_woman_boy=👨\u200D👩\u200D👦",
  "family_man_woman_boy_boy=👨\u200D👩\u200D👦\u200D👦 family_man_woman_girl=👨\u200D👩\u200D👧",
  "family_man_woman_girl_boy=👨\u200D👩\u200D👧\u200D👦",
  "family_man_woman_girl_girl=👨\u200D👩\u200D👧\u200D👧 family_woman_boy=👩\u200D👦",
  "family_woman_boy_boy=👩\u200D👦\u200D👦 family_woman_girl=👩\u200D👧",
  "family_woman_girl_boy=👩\u200D👧\u200D👦 family_woman_girl_girl=👩\u200D👧\u200D👧",
  "family_woman_woman_boy=👩\u200D👩\u200D👦 family_woman_woman_boy_boy=👩\u200D👩\u200D👦\u200D👦",
  "family_woman_woman_girl=👩\u200D👩\u200D👧 family_woman_woman_girl_boy=👩\u200D👩\u200D👧\u200D👦",
  "family_woman_woman_girl_girl=👩\u200D👩\u200D👧\u200D👧",
  "faroe_islands:flag_for_faroe_islands=🇫🇴 fast-forward_button:fast_forward=⏩",
  "fast_down_button:arrow_double_down=⏬ fast_reverse_button:rewind=⏪",
  "fast_up_button:arrow_double_up=⏫ fax_machine:fax=📠 fearful_face:fearful=😨 female_sign=♀",
  "ferris_wheel=🎡 ferry=⛴ field_hockey:field_hockey_stick_and_ball=🏑 fiji:flag_for_fiji=🇫🇯",
  "file_cabinet=🗄 file_folder=📁 film_frames=🎞 film_projector=📽 finland:flag_for_finland=🇫🇮",
  "fire=🔥 fire_engine=🚒 fire_extinguisher=🧯 firecracker=🧨 fireworks=🎆 first_quarter_moon=🌓",
  "first_quarter_moon_face:first_quarter_moon_with_face=🌛 fish=🐟",
  "fish_cake_with_swirl:fish_cake=🍥 fishing_pole:fishing_pole_and_fish=🎣",
  "five-thirty:clock530=🕠 five_o’clock:clock5=🕔 flag_for_japan=🇯🇵 flag_for_turkey=🇹🇷",
  "flag_in_hole:golf=⛳ flamingo=🦩 flashlight=🔦 flat_shoe=🥿 fleur-de-lis:fleur__de__lis=⚜",
  "flexed_biceps~:muscle=💪 floppy_disk=💾 flower_playing_cards=🎴 flushed_face:flushed=😳",
  "flying_disc=🥏 flying_saucer=🛸 fog=🌫 foggy=🌁 folded_hands~:pray=🙏 foot=🦶 footprints=👣",
  "fork_and_knife=🍴 fork_and_knife_with_plate=🍽 fortune_cookie=🥠 fountain=⛲",
  "fountain_pen:lower_left_fountain_pen=🖋 four-thirty:clock430=🕟 four_leaf_clover=🍀",
  "four_o’clock:clock4=🕓 fox_face=🦊 framed_picture:frame_with_picture=🖼",
  "france:flag_for_france=🇫🇷 free_button:free=🆓 french_fries:fries=🍟",
  "french_guiana:flag_for_french_guiana=🇬🇫 french_polynesia:flag_for_french_polynesia=🇵🇫",
  "french_southern_territories:flag_for_french_southern_territories=🇹🇫 fried_shrimp=🍤",
  "frog_face:frog=🐸 front-facing_baby_chick:hatched_chick=🐥",
  "frowning_face:white_frowning_face=☹ frowning_face_with_open_mouth:frowning=😦",
  "fuel_pump:fuelpump=⛽ full_moon=🌕 full_moon_face:full_moon_with_face=🌝 funeral_urn=⚱",
  "gabon:flag_for_gabon=🇬🇦 gambia:flag_for_gambia=🇬🇲 game_die=🎲 garlic=🧄 gear=⚙",
  "gem_stone:gem=💎 gemini=♊ genie=🧞 georgia:flag_for_georgia=🇬🇪 germany:flag_for_germany=🇩🇪",
  "ghana:flag_for_ghana=🇬🇭 ghost=👻 gibraltar:flag_for_gibraltar=🇬🇮 giraffe=🦒 girl~=👧",
  "glass_of_milk=🥛 glasses:eyeglasses=👓 globe_showing_americas:earth_americas=🌎",
  "globe_showing_asia-australia:earth_asia=🌏 globe_showing_europe-africa:earth_africa=🌍",
  "globe_with_meridians=🌐 gloves=🧤 glowing_star:star2=🌟 goal_net=🥅 goat=🐐",
  "goblin:japanese_goblin=👺 goggles=🥽 gorilla=🦍 graduation_cap:mortar_board=🎓 grapes=🍇",
  "greece:flag_for_greece=🇬🇷 green_apple=🍏 green_book=📗 green_circle=🟢 green_heart=💚",
  "green_salad=🥗 green_square=🟩 greenland:flag_for_greenland=🇬🇱 grenada:flag_for_grenada=🇬🇩",
  "grimacing_face:grimacing=😬 grinning_cat_face:smiley_cat=😺",
  "grinning_cat_face_with_smiling_eyes:smile_cat=😸 grinning_face:grinning=😀",
  "grinning_face_with_big_eyes:smiley=😃 grinning_face_with_smiling_eyes:smile=😄",
  "grinning_face_with_sweat:sweat_smile=😅 grinning_squinting_face:laughing:satisfied=😆",
  "growing_heart:heartpulse=💗 guadeloupe:flag_for_guadeloupe=🇬🇵 guam:flag_for_guam=🇬🇺",
  "guard~:guardsman=💂 guatemala:flag_for_guatemala=🇬🇹 guernsey:flag_for_guernsey=🇬🇬",
  "guide_dog=🦮 guinea:flag_for_guinea=🇬🇳 guinea-bissau:flag_for_guinea__bissau=🇬🇼 guitar=🎸",
  "guyana:flag_for_guyana=🇬🇾 haiti:flag_for_haiti=🇭🇹 hamburger=🍔 hammer=🔨 hammer_and_pick=⚒",
  "hammer_and_wrench=🛠 hamster_face:hamster=🐹",
  "hand_with_fingers_splayed~:raised_hand_with_fingers_splayed=🖐 handbag=👜 handshake=🤝",
  "hatching_chick=🐣 headphone:headphones=🎧 hear-no-evil_monkey:hear_no_evil=🙉",
  "heard_&_mcdonald_islands:flag_for_heard_&_mcdonald_islands=🇭🇲 heart_decoration=💟",
  "heart_suit:hearts=♥ heart_with_arrow:cupid=💘 heart_with_ribbon:gift_heart=💝",
  "heavy_check_mark=✔ heavy_division_sign=➗ heavy_dollar_sign=💲",
  "heavy_heart_exclamation:heavy_heart_exclamation_mark_ornament=❣ heavy_large_circle:o=⭕",
  "heavy_minus_sign=➖ heavy_multiplication_x=✖ heavy_plus_sign=➕ hedgehog=🦔 helicopter=🚁",
  "helm_symbol=⎈ herb=🌿 hibiscus=🌺 high-heeled_shoe:high_heel=👠",
  "high-speed_train:bullettrain_side=🚄 high_voltage:zap=⚡ hiking_boot=🥾 hindu_temple=🛕",
  "hippopotamus=🦛 hole=🕳 honduras:flag_for_honduras=🇭🇳 honey_pot=🍯 honeybee:bee=🐝",
  "hong_kong_sar_china:flag_for_hong_kong=🇭🇰 horizontal_traffic_light:traffic_light=🚥",
  "horse:horse_face=🐴 horse_racing~=🏇 hospital=🏥 hot_beverage:coffee=☕ hot_dog=🌭 hot_face=🥵",
  "hot_pepper=🌶 hot_springs:hotsprings=♨ hotel=🏨 hourglass_done:hourglass=⌛",
  "hourglass_not_done:hourglass_flowing_sand=⏳ house=🏠 house_with_garden=🏡",
  "houses:house_buildings=🏘 hugging_face=🤗 hundred_points:100=💯 hungary:flag_for_hungary=🇭🇺",
  "hushed_face:hushed=😯 ice=🧊 ice_cream=🍨 ice_hockey:ice_hockey_stick_and_puck=🏒 ice_skate=⛸",
  "iceland:flag_for_iceland=🇮🇸 id_button:id=🆔 inbox_tray=📥 incoming_envelope=📨",
  "index_pointing_up~:point_up=☝ india:flag_for_india=🇮🇳 indonesia:flag_for_indonesia=🇮🇩",
  "infinity=♾ information:information_source=ℹ input_latin_letters:abc=🔤",
  "input_latin_lowercase:abcd=🔡 input_latin_uppercase:capital_abcd=🔠 input_numbers:1234=🔢",
  "input_symbols:symbols=🔣 iran:flag_for_iran=🇮🇷 iraq:flag_for_iraq=🇮🇶",
  "ireland:flag_for_ireland=🇮🇪 isle_of_man:flag_for_isle_of_man=🇮🇲 israel:flag_for_israel=🇮🇱",
  "italy:flag_for_italy=🇮🇹 jack-o-lantern:jack_o_lantern=🎃 jamaica:flag_for_jamaica=🇯🇲",
  "japan:map_of_japan=🗾 japanese_acceptable_button:accept=🉑",
  "japanese_application_button:u7533=🈸 japanese_bargain_button:ideograph_advantage=🉐",
  "japanese_castle=🏯 japanese_congratulations_button:congratulations=㊗",
  "japanese_discount_button:u5272=🈹 japanese_dolls:dolls=🎎",
  "japanese_free_of_charge_button:u7121=🈚 japanese_here_button:koko=🈁",
  "japanese_monthly_amount_button:u6708=🈷 japanese_no_vacancy_button:u6e80=🈵",
  "japanese_not_free_of_charge_button:u6709=🈶 japanese_open_for_business_button:u55b6=🈺",
  "japanese_passing_grade_button:u5408=🈴 japanese_post_office:post_office=🏣",
  "japanese_prohibited_button:u7981=🈲 japanese_reserved_button:u6307=🈯",
  "japanese_secret_button:secret=㊙ japanese_service_charge_button:sa=🈂",
  "japanese_symbol_for_beginner:beginner=🔰 japanese_vacancy_button:u7a7a=🈳 jeans=👖",
  "jersey:flag_for_jersey=🇯🇪 jigsaw=🧩 joker:black_joker=🃏 jordan:flag_for_jordan=🇯🇴",
  "joystick=🕹 kaaba=🕋 kangaroo=🦘 kazakhstan:flag_for_kazakhstan=🇰🇿 kenya:flag_for_kenya=🇰🇪",
  "key=🔑 keyboard=⌨ keycap_#=#\uFE0F⃣ keycap_*=*\uFE0F⃣ keycap_0:zero=0\uFE0F⃣",
  "keycap_1:one=1\uFE0F⃣ keycap_10:ten=🔟 keycap_2:two=2\uFE0F⃣ keycap_3:three=3\uFE0F⃣",
  "keycap_4:four=4\uFE0F⃣ keycap_5:five=5\uFE0F⃣ keycap_6:six=6\uFE0F⃣",
  "keycap_7:seven=7\uFE0F⃣ keycap_8:eight=8\uFE0F⃣ keycap_9:nine=9\uFE0F⃣ keycap_asterisk=*⃣",
  "keycap_digit_eight=8⃣ keycap_digit_five=5⃣ keycap_digit_four=4⃣ keycap_digit_nine=9⃣",
  "keycap_digit_one=1⃣ keycap_digit_seven=7⃣ keycap_digit_six=6⃣ keycap_digit_three=3⃣",
  "keycap_digit_two=2⃣ keycap_digit_zero=0⃣ keycap_number_sign=#⃣ kick_scooter=🛴 kimono=👘",
  "kiribati:flag_for_kiribati=🇰🇮 kiss:kiss_mark=💋 kiss_man_man=👨\u200D❤\uFE0F\u200D💋\u200D👨",
  "kiss_woman_man=👩\u200D❤\uFE0F\u200D💋\u200D👨 kiss_woman_woman=👩\u200D❤\uFE0F\u200D💋\u200D👩",
  "kissing_cat_face:kissing_cat=😽 kissing_face:kissing=😗",
  "kissing_face_with_closed_eyes:kissing_closed_eyes=😚",
  "kissing_face_with_smiling_eyes:kissing_smiling_eyes=😙 kitchen_knife:hocho:knife=🔪 kite=🪁",
  "kiwi_fruit=🥝 koala=🐨 kosovo:flag_for_kosovo=🇽🇰 kuwait:flag_for_kuwait=🇰🇼",
  "kyrgyzstan:flag_for_kyrgyzstan=🇰🇬 lab_coat=🥼 label=🏷 lacrosse=🥍 lady_beetle:beetle=🐞",
  "laos:flag_for_laos=🇱🇦 laptop_computer:computer=💻 large_blue_diamond=🔷",
  "large_orange_diamond=🔶 last_quarter_moon=🌗",
  "last_quarter_moon_face:last_quarter_moon_with_face=🌜",
  "last_track_button:black_left__pointing_double_triangle_with_vertical_bar=⏮ latin_cross=✝",
  "latvia:flag_for_latvia=🇱🇻 leaf_fluttering_in_wind:leaves=🍃 leafy_green=🥬",
  "lebanon:flag_for_lebanon=🇱🇧 ledger=📒 left-facing_fist~=🤛",
  "left-right_arrow:left_right_arrow=↔ left_arrow:arrow_left=⬅",
  "left_arrow_curving_right:arrow_right_hook=↪ left_luggage=🛅 left_speech_bubble=🗨 leg=🦵",
  "lemon=🍋 leo=♌ leopard=🐆 lesotho:flag_for_lesotho=🇱🇸 level_slider=🎚",
  "liberia:flag_for_liberia=🇱🇷 libra=♎ libya:flag_for_libya=🇱🇾",
  "liechtenstein:flag_for_liechtenstein=🇱🇮 light_bulb:bulb=💡 light_rail=🚈",
  "light_skin_tone:emoji_modifier_fitzpatrick_type__1__2=🏻 link=🔗 linked_paperclips=🖇",
  "lion_face=🦁 lipstick=💄 lithuania:flag_for_lithuania=🇱🇹",
  "litter_in_bin_sign:put_litter_in_its_place=🚮 lizard=🦎 llama=🦙 lobster=🦞 locked:lock=🔒",
  "locked_with_key:closed_lock_with_key=🔐 locked_with_pen:lock_with_ink_pen=🔏",
  "locomotive:steam_locomotive=🚂 lollipop=🍭 lotion_bottle=🧴 loudly_crying_face:sob=😭",
  "loudspeaker=📢 love-you_gesture~=🤟 love_hotel=🏩 love_letter=💌 luggage=🧳",
  "luxembourg:flag_for_luxembourg=🇱🇺 lying_face=🤥 macau_sar_china:flag_for_macau=🇲🇴",
  "macedonia:flag_for_macedonia=🇲🇰 madagascar:flag_for_madagascar=🇲🇬 mage~=🧙 magnet=🧲",
  "magnifying_glass_tilted_left:mag=🔍 magnifying_glass_tilted_right:mag_right=🔎",
  "mahjong_red_dragon:mahjong=🀄 malawi:flag_for_malawi=🇲🇼 malaysia:flag_for_malaysia=🇲🇾",
  "maldives:flag_for_maldives=🇲🇻 male_sign=♂ mali:flag_for_mali=🇲🇱 malta:flag_for_malta=🇲🇹",
  "man_and_woman_holding_hands:couple=👫 man_artist~=👨\u200D🎨 man_astronaut~=👨\u200D🚀",
  "man_biking~=🚴\u200D♂\uFE0F man_bouncing_ball~=⛹\uFE0F\u200D♂\uFE0F",
  "man_bowing~=🙇\u200D♂\uFE0F man_cartwheeling~=🤸\u200D♂\uFE0F man_climbing~=🧗\u200D♂\uFE0F",
  "man_construction_worker~=👷\u200D♂\uFE0F man_cook~=👨\u200D🍳 man_dancing~=🕺",
  "man_detective~=🕵\uFE0F\u200D♂\uFE0F man_elf~=🧝\u200D♂\uFE0F",
  "man_facepalming~=🤦\u200D♂\uFE0F man_factory_worker~=👨\u200D🏭 man_fairy~=🧚\u200D♂\uFE0F",
  "man_farmer~=👨\u200D🌾 man_firefighter~=👨\u200D🚒 man_frowning~=🙍\u200D♂\uFE0F",
  "man_genie=🧞\u200D♂\uFE0F man_gesturing_no~=🙅\u200D♂\uFE0F man_gesturing_ok~=🙆\u200D♂\uFE0F",
  "man_getting_haircut~=💇\u200D♂\uFE0F man_getting_massage~=💆\u200D♂\uFE0F",
  "man_golfing~=🏌\uFE0F\u200D♂\uFE0F man_guard~=💂\u200D♂\uFE0F",
  "man_health_worker~=👨\u200D⚕\uFE0F man_in_lotus_position~=🧘\u200D♂\uFE0F",
  "man_in_manual_wheelchair=👨\u200D🦽 man_in_motorized_wheelchair=👨\u200D🦼",
  "man_in_steamy_room~=🧖\u200D♂\uFE0F",
  "man_in_suit_levitating~:man_in_business_suit_levitating=🕴 man_in_tuxedo~=🤵",
  "man_judge~=👨\u200D⚖\uFE0F man_juggling~=🤹\u200D♂\uFE0F",
  "man_lifting_weights~=🏋\uFE0F\u200D♂\uFE0F man_mage~=🧙\u200D♂\uFE0F man_mechanic~=👨\u200D🔧",
  "man_mountain_biking~=🚵\u200D♂\uFE0F man_office_worker~=👨\u200D💼 man_pilot~=👨\u200D✈\uFE0F",
  "man_playing_handball~=🤾\u200D♂\uFE0F man_playing_water_polo~=🤽\u200D♂\uFE0F",
  "man_police_officer~=👮\u200D♂\uFE0F man_pouting~=🙎\u200D♂\uFE0F",
  "man_raising_hand~=🙋\u200D♂\uFE0F man_rowing_boat~=🚣\u200D♂\uFE0F",
  "man_running~=🏃\u200D♂\uFE0F man_scientist~=👨\u200D🔬 man_shrugging~=🤷\u200D♂\uFE0F",
  "man_singer~=👨\u200D🎤 man_student~=👨\u200D🎓 man_surfing~=🏄\u200D♂\uFE0F",
  "man_swimming~=🏊\u200D♂\uFE0F man_teacher~=👨\u200D🏫 man_technologist~=👨\u200D💻",
  "man_tipping_hand~=💁\u200D♂\uFE0F man_vampire~=🧛\u200D♂\uFE0F man_walking~=🚶\u200D♂\uFE0F",
  "man_wearing_turban~=👳\u200D♂\uFE0F man_with_chinese_cap~:man_with_gua_pi_mao=👲",
  "man_with_probing_cane=👨\u200D🦯 man_zombie=🧟\u200D♂\uFE0F mango=🥭 mantelpiece_clock=🕰",
  "manual_wheelchair=🦽 man~=👨 man’s_shoe:mans_shoe:shoe=👞 maple_leaf=🍁",
  "marshall_islands:flag_for_marshall_islands=🇲🇭 martial_arts_uniform=🥋",
  "martinique:flag_for_martinique=🇲🇶 mate=🧉 mauritania:flag_for_mauritania=🇲🇷",
  "mauritius:flag_for_mauritius=🇲🇺 mayotte:flag_for_mayotte=🇾🇹 meat_on_bone=🍖",
  "mechanical_arm=🦾 mechanical_leg=🦿 medical_symbol=⚕",
  "medium_dark_skin_tone:emoji_modifier_fitzpatrick_type__5=🏾",
  "medium_light_skin_tone:emoji_modifier_fitzpatrick_type__3=🏼",
  "medium_skin_tone:emoji_modifier_fitzpatrick_type__4=🏽 megaphone:mega=📣 melon=🍈",
  "memo:pencil=📝 men_with_bunny_ears=👯\u200D♂\uFE0F men_wrestling=🤼\u200D♂\uFE0F",
  "menorah:menorah_with_nine_branches=🕎 men’s_room:mens=🚹 mermaid~=🧜\u200D♀\uFE0F",
  "merman~=🧜\u200D♂\uFE0F merperson~=🧜 metro=🚇 mexico:flag_for_mexico=🇲🇽 microbe=🦠",
  "micronesia:flag_for_micronesia=🇫🇲 microphone=🎤 microscope=🔬",
  "middle_finger~:reversed_hand_with_middle_finger_extended=🖕 military_medal=🎖 milky_way=🌌",
  "minibus=🚐 moai:moyai=🗿 mobile_phone:iphone=📱 mobile_phone_off=📴",
  "mobile_phone_with_arrow:calling=📲 moldova:flag_for_moldova=🇲🇩 monaco:flag_for_monaco=🇲🇨",
  "money-mouth_face:money__mouth_face=🤑 money_bag:moneybag=💰 money_with_wings=💸",
  "mongolia:flag_for_mongolia=🇲🇳 monkey=🐒 monkey_face=🐵 monorail=🚝",
  "montenegro:flag_for_montenegro=🇲🇪 montserrat:flag_for_montserrat=🇲🇸 moon_cake=🥮",
  "moon_viewing_ceremony:rice_scene=🎑 morocco:flag_for_morocco=🇲🇦 mosque=🕌 mosquito=🦟",
  "motor_boat=🛥 motor_scooter=🛵 motorcycle:racing_motorcycle=🏍 motorized_wheelchair=🦼",
  "motorway=🛣 mount_fuji=🗻 mountain=⛰ mountain_cableway=🚠 mountain_railway=🚞",
  "mouse:mouse_face=🐭 mouse2=🐁 mouth:lips=👄 movie_camera=🎥 mozambique:flag_for_mozambique=🇲🇿",
  "mrs._claus~=🤶 mushroom=🍄 musical_keyboard=🎹 musical_note=🎵 musical_notes:notes=🎶",
  "musical_score=🎼 muted_speaker:mute=🔇 myanmar_(burma):flag_for_myanmar=🇲🇲",
  "nail_polish~:nail_care=💅 name_badge=📛 namibia:flag_for_namibia=🇳🇦 national_park=🏞",
  "nauru:flag_for_nauru=🇳🇷 nauseated_face=🤢 nazar_amulet=🧿 necktie=👔 nepal:flag_for_nepal=🇳🇵",
  "nerd_face=🤓 netherlands:flag_for_netherlands=🇳🇱 neutral_face=😐 new_button:new=🆕",
  "new_caledonia:flag_for_new_caledonia=🇳🇨 new_moon=🌑 new_moon_face:new_moon_with_face=🌚",
  "new_zealand:flag_for_new_zealand=🇳🇿 newspaper=📰",
  "next_track_button:black_right__pointing_double_triangle_with_vertical_bar=⏭ ng_button:ng=🆖",
  "nicaragua:flag_for_nicaragua=🇳🇮 niger:flag_for_niger=🇳🇪 nigeria:flag_for_nigeria=🇳🇬",
  "night_with_stars=🌃 nine-thirty:clock930=🕤 nine_o’clock:clock9=🕘 niue:flag_for_niue=🇳🇺",
  "no_bicycles=🚳 no_entry=⛔ no_littering:do_not_litter=🚯 no_mobile_phones=📵",
  "no_one_under_eighteen:underage=🔞 no_pedestrians=🚷 no_smoking=🚭",
  "non-potable_water:non__potable_water=🚱 norfolk_island:flag_for_norfolk_island=🇳🇫",
  "north_korea:flag_for_north_korea=🇰🇵",
  "northern_mariana_islands:flag_for_northern_mariana_islands=🇲🇵 norway:flag_for_norway=🇳🇴",
  "nose~=👃 notebook=📓 notebook_with_decorative_cover=📔 nut_and_bolt=🔩",
  "o_button_(blood_type):o2=🅾 octopus=🐙 oden=🍢 office_building:office=🏢 ogre:japanese_ogre=👹",
  "oil_drum=🛢 ok_button:ok=🆗 ok_hand~=👌 old_key=🗝 old_man~:older_man=👴",
  "old_woman~:older_woman=👵 older_adult~=🧓 om:om_symbol=🕉 oman:flag_for_oman=🇴🇲",
  "on!_arrow:on=🔛 oncoming_automobile=🚘 oncoming_bus=🚍 oncoming_fist~:facepunch:punch=👊",
  "oncoming_police_car=🚔 oncoming_taxi=🚖 one-piece_swimsuit=🩱 one-thirty:clock130=🕜",
  "one_o’clock:clock1=🕐 onion=🧅 open_book:book=📖 open_file_folder=📂 open_hands~=👐",
  "open_mailbox_with_lowered_flag:mailbox_with_no_mail=📭",
  "open_mailbox_with_raised_flag:mailbox_with_mail=📬 ophiuchus=⛎ optical_disk:cd=💿",
  "orange_book=📙 orange_circle=🟠 orange_heart=🧡 orange_square=🟧 orangutan=🦧 orthodox_cross=☦",
  "otter=🦦 outbox_tray=📤 owl=🦉 ox=🐂 oyster=🦪 p_button:parking=🅿 package=📦 page_facing_up=📄",
  "page_with_curl=📃 pager=📟 paintbrush:lower_left_paintbrush=🖌 pakistan:flag_for_pakistan=🇵🇰",
  "palau:flag_for_palau=🇵🇼 palestinian_territories:flag_for_palestinian_territories=🇵🇸",
  "palm_tree=🌴 palms_up_together~=🤲 panama:flag_for_panama=🇵🇦 pancakes=🥞 panda_face=🐼",
  "paperclip=📎 papua_new_guinea:flag_for_papua_new_guinea=🇵🇬 paraguay:flag_for_paraguay=🇵🇾",
  "parrot=🦜 part_alternation_mark=〽 party_popper:tada=🎉 partying_face=🥳 passenger_ship=🛳",
  "passport_control=🛂 pause_button:double_vertical_bar=⏸ paw_prints:feet=🐾 peace_symbol=☮",
  "peach=🍑 peacock=🦚 peanuts=🥜 pear=🍐 pen:lower_left_ballpoint_pen=🖊 pencil2=✏ penguin=🐧",
  "pensive_face:pensive=😔 people_holding_hands=🧑\u200D🤝\u200D🧑",
  "people_with_bunny_ears:dancers=👯 people_wrestling=🤼 performing_arts=🎭",
  "persevering_face:persevere=😣 person_biking~:bicyclist=🚴",
  "person_bouncing_ball~:person_with_ball=⛹ person_bowing~:bow=🙇 person_cartwheeling~=🤸",
  "person_climbing~=🧗 person_facepalming~=🤦 person_fencing=🤺 person_frowning~=🙍",
  "person_gesturing_no~:no_good=🙅 person_gesturing_ok~:ok_woman=🙆",
  "person_getting_haircut~:haircut=💇 person_getting_massage~:massage=💆",
  "person_golfing~:golfer=🏌 person_in_bed~:sleeping_accommodation=🛌",
  "person_in_lotus_position~=🧘 person_in_steamy_room~=🧖 person_juggling~=🤹 person_kneeling=🧎",
  "person_lifting_weights~:weight_lifter=🏋 person_mountain_biking~:mountain_bicyclist=🚵",
  "person_playing_handball~=🤾 person_playing_water_polo~=🤽",
  "person_pouting~:person_with_pouting_face=🙎 person_raising_hand~:raising_hand=🙋",
  "person_rowing_boat~:rowboat=🚣 person_running~:runner:running=🏃 person_shrugging~=🤷",
  "person_standing=🧍 person_surfing~:surfer=🏄 person_swimming~:swimmer=🏊",
  "person_taking_bath~:bath=🛀 person_tipping_hand~:information_desk_person=💁",
  "person_walking~:walking=🚶 person_wearing_turban~:man_with_turban=👳 peru:flag_for_peru=🇵🇪",
  "petri_dish=🧫 philippines:flag_for_philippines=🇵🇭 pick=⛏ pie=🥧 pig:pig_face=🐷 pig2=🐖",
  "pig_nose=🐽 pile_of_poo:hankey:poop:shit=💩 pill=💊 pinching_hand=🤏 pine_decoration:bamboo=🎍",
  "pineapple=🍍 ping_pong:table_tennis_paddle_and_ball=🏓 pirate_flag=🏴\u200D☠\uFE0F pisces=♓",
  "pistol:gun=🔫 pitcairn_islands:flag_for_pitcairn_islands=🇵🇳 pizza=🍕 place_of_worship=🛐",
  "play_button:arrow_forward=▶",
  "play_or_pause_button:black_right__pointing_triangle_with_double_vertical_bar=⏯",
  "pleading_face=🥺 poland:flag_for_poland=🇵🇱 police_car=🚓 police_car_light:rotating_light=🚨",
  "police_officer~:cop=👮 poodle=🐩 pool_8_ball:8ball=🎱 popcorn=🍿 portugal:flag_for_portugal=🇵🇹",
  "postal_horn=📯 postbox=📮 pot_of_food:stew=🍲 potable_water=🚰 potato=🥔 poultry_leg=🍗",
  "pound_banknote:pound=💷 pouting_cat_face:pouting_cat=😾 pouting_face:rage=😡 prayer_beads=📿",
  "pregnant_woman~=🤰 pretzel=🥨 princess~=👸 prince~=🤴 printer=🖨 probing_cane=🦯",
  "prohibited:no_entry_sign=🚫 puerto_rico:flag_for_puerto_rico=🇵🇷 purple_circle=🟣",
  "purple_heart=💜 purple_square=🟪 purse=👛 pushpin=📌 qatar:flag_for_qatar=🇶🇦",
  "question_mark:question=❓ rabbit:rabbit_face=🐰 rabbit2=🐇 raccoon=🦝 racehorse=🐎 racing_car=🏎",
  "radio=📻 radio_button=🔘 radioactive:radioactive_sign=☢ railway_car=🚃 railway_track=🛤",
  "rainbow=🌈 rainbow_flag=🏳\uFE0F\u200D🌈 raised_back_of_hand~=🤚 raised_fist~:fist=✊",
  "raised_hand~:hand=✋ raising_hands~:raised_hands=🙌 ram=🐏 rat=🐀 razor=🪒 receipt=🧾",
  "record_button:black_circle_for_record=⏺ recycling_symbol:recycle=♻ red-haired_man=👨\u200D🦰",
  "red-haired_woman=👩\u200D🦰 red_apple:apple=🍎 red_circle=🔴 red_envelope=🧧 red_hair=🦰",
  "red_heart:heart=❤ red_paper_lantern:izakaya_lantern:lantern=🏮 red_square=🟥",
  "red_triangle_pointed_down:small_red_triangle_down=🔻",
  "red_triangle_pointed_up:small_red_triangle=🔺",
  "regional_indicator_symbol_letter_a:regional_indicator_a=🇦",
  "regional_indicator_symbol_letter_b:regional_indicator_b=🇧",
  "regional_indicator_symbol_letter_c:regional_indicator_c=🇨",
  "regional_indicator_symbol_letter_d:regional_indicator_d=🇩",
  "regional_indicator_symbol_letter_e:regional_indicator_e=🇪",
  "regional_indicator_symbol_letter_f:regional_indicator_f=🇫",
  "regional_indicator_symbol_letter_g:regional_indicator_g=🇬",
  "regional_indicator_symbol_letter_h:regional_indicator_h=🇭",
  "regional_indicator_symbol_letter_i:regional_indicator_i=🇮",
  "regional_indicator_symbol_letter_j:regional_indicator_j=🇯",
  "regional_indicator_symbol_letter_k:regional_indicator_k=🇰",
  "regional_indicator_symbol_letter_l:regional_indicator_l=🇱",
  "regional_indicator_symbol_letter_m:regional_indicator_m=🇲",
  "regional_indicator_symbol_letter_n:regional_indicator_n=🇳",
  "regional_indicator_symbol_letter_o:regional_indicator_o=🇴",
  "regional_indicator_symbol_letter_p:regional_indicator_p=🇵",
  "regional_indicator_symbol_letter_q:regional_indicator_q=🇶",
  "regional_indicator_symbol_letter_r:regional_indicator_r=🇷",
  "regional_indicator_symbol_letter_s:regional_indicator_s=🇸",
  "regional_indicator_symbol_letter_t:regional_indicator_t=🇹",
  "regional_indicator_symbol_letter_u:regional_indicator_u=🇺",
  "regional_indicator_symbol_letter_v:regional_indicator_v=🇻",
  "regional_indicator_symbol_letter_w:regional_indicator_w=🇼",
  "regional_indicator_symbol_letter_x:regional_indicator_x=🇽",
  "regional_indicator_symbol_letter_y:regional_indicator_y=🇾",
  "regional_indicator_symbol_letter_z:regional_indicator_z=🇿 registered=®",
  "relieved_face:relieved=😌 reminder_ribbon=🎗 repeat_button:repeat=🔁",
  "repeat_single_button:repeat_one=🔂 rescue_worker’s_helmet:helmet_with_white_cross=⛑",
  "restroom=🚻 reverse_button:arrow_backward=◀ revolving_hearts=💞 rhinoceros=🦏 ribbon=🎀",
  "rice_ball=🍙 rice_cracker=🍘 right-facing_fist~=🤜 right_anger_bubble=🗯",
  "right_arrow:arrow_right=➡ right_arrow_curving_down:arrow_heading_down=⤵",
  "right_arrow_curving_left:leftwards_arrow_with_hook=↩",
  "right_arrow_curving_up:arrow_heading_up=⤴ ring=💍 ringed_planet=🪐",
  "roasted_sweet_potato:sweet_potato=🍠 robot_face:robot=🤖 rocket=🚀 roll_of_paper=🧻",
  "rolled-up_newspaper:rolled__up_newspaper=🗞 roller_coaster=🎢",
  "rolling_on_the_floor_laughing=🤣 romania:flag_for_romania=🇷🇴 rooster=🐓 rose=🌹 rosette=🏵",
  "round_pushpin=📍 rugby_football=🏉 running_shirt:running_shirt_with_sash=🎽",
  "running_shoe:athletic_shoe=👟 russia:flag_for_russia=🇷🇺 rwanda:flag_for_rwanda=🇷🇼",
  "réunion:flag_for_réunion=🇷🇪 sad_but_relieved_face:disappointed_relieved=😥 safety_pin=🧷",
  "safety_vest=🦺 sagittarius=♐ sailboat:boat=⛵ sake=🍶 salt=🧂 samoa:flag_for_samoa=🇼🇸",
  "san_marino:flag_for_san_marino=🇸🇲 sandwich=🥪 santa_claus~:santa=🎅 sari=🥻",
  "satellite:satellite_antenna=📡 saudi_arabia:flag_for_saudi_arabia=🇸🇦 sauropod=🦕 saxophone=🎷",
  "scarf=🧣 school=🏫 school_backpack:school_satchel=🎒 scissors=✂ scorpio:scorpius=♏ scorpion=🦂",
  "scotland=🏴󠁧󠁢󠁳󠁣󠁴󠁿 scroll=📜 seat=💺 see-no-evil_monkey:see_no_evil=🙈 seedling=🌱 selfie~=🤳",
  "senegal:flag_for_senegal=🇸🇳 serbia:flag_for_serbia=🇷🇸 service_dog=🐕\u200D🦺",
  "seven-thirty:clock730=🕢 seven_o’clock:clock7=🕖 seychelles:flag_for_seychelles=🇸🇨",
  "shallow_pan_of_food=🥘 shamrock=☘ shark=🦈 shaved_ice=🍧 sheaf_of_rice:ear_of_rice=🌾 shield=🛡",
  "shinto_shrine=⛩ ship=🚢 shooting_star:stars=🌠 shopping_bags=🛍 shopping_cart=🛒",
  "shortcake:cake=🍰 shorts=🩳 shower=🚿 shrimp=🦐",
  "shuffle_tracks_button:twisted_rightwards_arrows=🔀 shushing_face=🤫",
  "sierra_leone:flag_for_sierra_leone=🇸🇱 sign_of_the_horns~=🤘 singapore:flag_for_singapore=🇸🇬",
  "sint_maarten:flag_for_sint_maarten=🇸🇽 six-thirty:clock630=🕡 six_o’clock:clock6=🕕",
  "skateboard=🛹 skier=⛷ skis:ski=🎿 skull=💀 skull_and_crossbones=☠ skunk=🦨 sled=🛷",
  "sleeping_face:sleeping=😴 sleepy_face:sleepy=😪 slightly_frowning_face=🙁",
  "slightly_smiling_face=🙂 slot_machine=🎰 sloth=🦥 slovakia:flag_for_slovakia=🇸🇰",
  "slovenia:flag_for_slovenia=🇸🇮 small_airplane=🛩 small_blue_diamond=🔹 small_orange_diamond=🔸",
  "smiling_cat_face_with_heart-eyes:heart_eyes_cat=😻 smiling_face:relaxed=☺",
  "smiling_face_with_3_hearts=🥰 smiling_face_with_halo:innocent=😇",
  "smiling_face_with_heart-eyes:heart_eyes=😍 smiling_face_with_horns:smiling_imp=😈",
  "smiling_face_with_smiling_eyes:blush=😊 smiling_face_with_sunglasses:sunglasses=😎",
  "smirking_face:smirk=😏 snail=🐌 snake=🐍 sneezing_face=🤧",
  "snow-capped_mountain:snow_capped_mountain=🏔 snowboarder~=🏂 snowflake=❄ snowman=☃",
  "snowman_without_snow=⛄ soap=🧼 soccer_ball:soccer=⚽ socks=🧦 soft_ice_cream:icecream=🍦",
  "softball=🥎 solomon_islands:flag_for_solomon_islands=🇸🇧 somalia:flag_for_somalia=🇸🇴",
  "soon_arrow:soon=🔜 sos_button:sos=🆘 south_africa:flag_for_south_africa=🇿🇦",
  "south_georgia_&_south_sandwich_islands:flag_for_south_georgia_&_south_sandwich_islands=🇬🇸",
  "south_korea:flag_for_south_korea=🇰🇷 south_sudan:flag_for_south_sudan=🇸🇸",
  "spade_suit:spades=♠ spaghetti=🍝 spain:flag_for_spain=🇪🇸 sparkle=❇ sparkler=🎇 sparkles=✨",
  "sparkling_heart=💖 speak-no-evil_monkey:speak_no_evil=🙊 speaker_high_volume:loud_sound=🔊",
  "speaker_low_volume:speaker=🔈 speaker_medium_volume:sound=🔉",
  "speaking_head:speaking_head_in_silhouette=🗣 speech_balloon=💬 speedboat=🚤 spider=🕷",
  "spider_web=🕸 spiral_calendar:spiral_calendar_pad=🗓 spiral_notepad:spiral_note_pad=🗒",
  "spiral_shell:shell=🐚 sponge=🧽 spoon=🥄 sport_utility_vehicle:blue_car=🚙 sports_medal=🏅",
  "spouting_whale:whale=🐳 squid=🦑 squinting_face_with_tongue:stuck_out_tongue_closed_eyes=😝",
  "sri_lanka:flag_for_sri_lanka=🇱🇰 st._barthélemy:flag_for_st._barthélemy=🇧🇱",
  "st._helena:flag_for_st._helena=🇸🇭 st._kitts_&_nevis:flag_for_st._kitts_&_nevis=🇰🇳",
  "st._lucia:flag_for_st._lucia=🇱🇨 st._martin:flag_for_st._martin=🇲🇫",
  "st._pierre_&_miquelon:flag_for_st._pierre_&_miquelon=🇵🇲",
  "st._vincent_&_grenadines:flag_for_st._vincent_&_grenadines=🇻🇨 stadium=🏟 star-struck=🤩",
  "star_and_crescent=☪ star_of_david=✡ station=🚉 statue_of_liberty=🗽 steaming_bowl:ramen=🍜",
  "stethoscope=🩺 stop_button:black_square_for_stop=⏹ stop_sign=🛑 stopwatch=⏱ straight_ruler=📏",
  "strawberry=🍓 studio_microphone=🎙 stuffed_flatbread=🥙 sudan:flag_for_sudan=🇸🇩 sun:sunny=☀",
  "sun_behind_cloud:partly_sunny=⛅ sun_behind_large_cloud:white_sun_behind_cloud=🌥",
  "sun_behind_rain_cloud:white_sun_behind_cloud_with_rain=🌦",
  "sun_behind_small_cloud:white_sun_with_small_cloud=🌤 sun_with_face=🌞 sunflower=🌻 sunrise=🌅",
  "sunrise_over_mountains=🌄 sunset:city_sunrise=🌇 superhero=🦸 supervillain=🦹",
  "suriname:flag_for_suriname=🇸🇷 sushi=🍣 suspension_railway=🚟",
  "svalbard_&_jan_mayen:flag_for_svalbard_&_jan_mayen=🇸🇯 swan=🦢",
  "swaziland:flag_for_swaziland=🇸🇿 sweat_droplets:sweat_drops=💦 sweden:flag_for_sweden=🇸🇪",
  "switzerland:flag_for_switzerland=🇨🇭 synagogue=🕍 syria:flag_for_syria=🇸🇾 syringe=💉",
  "são_tomé_&_príncipe:flag_for_são_tomé_&_príncipe=🇸🇹 t-rex=🦖 t-shirt:shirt:tshirt=👕 taco=🌮",
  "taiwan:flag_for_taiwan=🇹🇼 tajikistan:flag_for_tajikistan=🇹🇯 takeout_box=🥡 tanabata_tree=🎋",
  "tangerine=🍊 tanzania:flag_for_tanzania=🇹🇿 taurus=♉ taxi=🚕 teacup_without_handle:tea=🍵",
  "teddy_bear=🧸 telephone:phone=☎ telephone_receiver=📞 telescope=🔭 television:tv=📺",
  "ten-thirty:clock1030=🕥 ten_o’clock:clock10=🕙 tennis=🎾 tent=⛺ test_tube=🧪",
  "thailand:flag_for_thailand=🇹🇭 thermometer=🌡 thinking_face=🤔 thought_balloon=💭 thread=🧵",
  "three-thirty:clock330=🕞 three_o’clock:clock3=🕒 thumbs_down~:__1:-1:thumbsdown=👎",
  "thumbs_up~:+1:thumbsup=👍 ticket=🎫 tiger:tiger_face=🐯 tiger2=🐅 timer_clock=⏲",
  "timor-leste:flag_for_timor__leste=🇹🇱 tired_face=😫 togo:flag_for_togo=🇹🇬 toilet=🚽",
  "tokelau:flag_for_tokelau=🇹🇰 tokyo_tower=🗼 tomato=🍅 tonga:flag_for_tonga=🇹🇴 tongue=👅",
  "toolbox=🧰 tooth=🦷 top_arrow:top=🔝 top_hat:tophat=🎩 tornado:cloud_with_tornado=🌪",
  "trackball=🖲 tractor=🚜 trade_mark:tm=™ train:tram_car=🚋 train2=🚆 tram=🚊",
  "triangular_flag:triangular_flag_on_post=🚩 triangular_ruler=📐 trident_emblem:trident=🔱",
  "trinidad_&_tobago:flag_for_trinidad_&_tobago=🇹🇹",
  "tristan_da_cunha:flag_for_tristan_da_cunha=🇹🇦 trolleybus=🚎 trophy=🏆 tropical_drink=🍹",
  "tropical_fish=🐠 trumpet=🎺 tulip=🌷 tumbler_glass=🥃 tunisia:flag_for_tunisia=🇹🇳 turkey=🦃",
  "turkmenistan:flag_for_turkmenistan=🇹🇲",
  "turks_&_caicos_islands:flag_for_turks_&_caicos_islands=🇹🇨 turtle=🐢",
  "tuvalu:flag_for_tuvalu=🇹🇻 twelve-thirty:clock1230=🕧 twelve_o’clock:clock12=🕛",
  "two-thirty:clock230=🕝 two_hearts=💕 two_men_holding_hands=👬 two_o’clock:clock2=🕑",
  "two_women_holding_hands=👭 u.s._outlying_islands:flag_for_u.s._outlying_islands=🇺🇲",
  "u.s._virgin_islands:flag_for_u.s._virgin_islands=🇻🇮 uganda:flag_for_uganda=🇺🇬",
  "ukraine:flag_for_ukraine=🇺🇦 umbrella=☂ umbrella_on_ground=⛱ umbrella_with_rain_drops=☔",
  "unamused_face:unamused=😒 unicorn_face=🦄",
  "united_arab_emirates:flag_for_united_arab_emirates=🇦🇪",
  "united_kingdom:flag_for_united_kingdom=🇬🇧 united_nations=🇺🇳",
  "united_states:flag_for_united_states=🇺🇸 unlocked:unlock=🔓 up!_button:up=🆙",
  "up-down_arrow:arrow_up_down=↕ up-left_arrow:arrow_upper_left=↖",
  "up-right_arrow:arrow_upper_right=↗ up_arrow:arrow_up=⬆",
  "upside-down_face:upside__down_face=🙃 upwards_button:arrow_up_small=🔼",
  "uruguay:flag_for_uruguay=🇺🇾 uzbekistan:flag_for_uzbekistan=🇺🇿 vampire~=🧛",
  "vanuatu:flag_for_vanuatu=🇻🇺 vatican_city:flag_for_vatican_city=🇻🇦",
  "venezuela:flag_for_venezuela=🇻🇪 vertical_traffic_light=🚦 vibration_mode=📳",
  "victory_hand~:v=✌ video_camera=📹 video_game=🎮 videocassette:vhs=📼",
  "vietnam:flag_for_vietnam=🇻🇳 violin=🎻 virgo=♍ volcano=🌋 volleyball=🏐 vs_button:vs=🆚",
  "vulcan_salute~:raised_hand_with_part_between_middle_and_ring_fingers=🖖 waffle=🧇",
  "wales=🏴󠁧󠁢󠁷󠁬󠁳󠁿 wallis_&_futuna:flag_for_wallis_&_futuna=🇼🇫 waning_crescent_moon=🌘",
  "waning_gibbous_moon=🌖 warning=⚠ wastebasket=🗑 watch=⌚ water_buffalo=🐃 water_closet:wc=🚾",
  "water_wave:ocean=🌊 watermelon=🍉 waving_hand~:wave=👋 wavy_dash=〰 waxing_crescent_moon=🌒",
  "waxing_gibbous_moon:moon=🌔 weary_cat_face:scream_cat=🙀 weary_face:weary=😩 wedding=💒",
  "western_sahara:flag_for_western_sahara=🇪🇭 whale2=🐋 wheel_of_dharma=☸",
  "wheelchair_symbol:wheelchair=♿ white-haired_man=👨\u200D🦳 white-haired_woman=👩\u200D🦳",
  "white_circle=⚪ white_exclamation_mark:grey_exclamation=❕ white_flag:waving_white_flag=🏳",
  "white_flower=💮 white_hair=🦳 white_heart=🤍 white_heavy_check_mark:white_check_mark=✅",
  "white_large_square=⬜ white_medium-small_square:white_medium_small_square=◽",
  "white_medium_square=◻ white_medium_star:star=⭐ white_question_mark:grey_question=❔",
  "white_small_square=▫ white_square_button=🔳 wilted_flower=🥀 wind_chime=🎐",
  "wind_face:wind_blowing_face=🌬 wine_glass=🍷 winking_face:wink=😉",
  "winking_face_with_tongue:stuck_out_tongue_winking_eye=😜 wolf_face:wolf=🐺",
  "woman_artist~=👩\u200D🎨 woman_astronaut~=👩\u200D🚀 woman_biking~=🚴\u200D♀\uFE0F",
  "woman_bouncing_ball~=⛹\uFE0F\u200D♀\uFE0F woman_bowing~=🙇\u200D♀\uFE0F",
  "woman_cartwheeling~=🤸\u200D♀\uFE0F woman_climbing~=🧗\u200D♀\uFE0F",
  "woman_construction_worker~=👷\u200D♀\uFE0F woman_cook~=👩\u200D🍳 woman_dancing~:dancer=💃",
  "woman_detective~=🕵\uFE0F\u200D♀\uFE0F woman_elf~=🧝\u200D♀\uFE0F",
  "woman_facepalming~=🤦\u200D♀\uFE0F woman_factory_worker~=👩\u200D🏭",
  "woman_fairy~=🧚\u200D♀\uFE0F woman_farmer~=👩\u200D🌾 woman_firefighter~=👩\u200D🚒",
  "woman_frowning~=🙍\u200D♀\uFE0F woman_genie=🧞\u200D♀\uFE0F",
  "woman_gesturing_no~=🙅\u200D♀\uFE0F woman_gesturing_ok~=🙆\u200D♀\uFE0F",
  "woman_getting_haircut~=💇\u200D♀\uFE0F woman_getting_massage~=💆\u200D♀\uFE0F",
  "woman_golfing~=🏌\uFE0F\u200D♀\uFE0F woman_guard~=💂\u200D♀\uFE0F",
  "woman_health_worker~=👩\u200D⚕\uFE0F woman_in_lotus_position~=🧘\u200D♀\uFE0F",
  "woman_in_manual_wheelchair=👩\u200D🦽 woman_in_motorized_wheelchair=👩\u200D🦼",
  "woman_in_steamy_room~=🧖\u200D♀\uFE0F woman_judge~=👩\u200D⚖\uFE0F",
  "woman_juggling~=🤹\u200D♀\uFE0F woman_lifting_weights~=🏋\uFE0F\u200D♀\uFE0F",
  "woman_mage~=🧙\u200D♀\uFE0F woman_mechanic~=👩\u200D🔧 woman_mountain_biking~=🚵\u200D♀\uFE0F",
  "woman_office_worker~=👩\u200D💼 woman_pilot~=👩\u200D✈\uFE0F",
  "woman_playing_handball~=🤾\u200D♀\uFE0F woman_playing_water_polo~=🤽\u200D♀\uFE0F",
  "woman_police_officer~=👮\u200D♀\uFE0F woman_pouting~=🙎\u200D♀\uFE0F",
  "woman_raising_hand~=🙋\u200D♀\uFE0F woman_rowing_boat~=🚣\u200D♀\uFE0F",
  "woman_running~=🏃\u200D♀\uFE0F woman_scientist~=👩\u200D🔬 woman_shrugging~=🤷\u200D♀\uFE0F",
  "woman_singer~=👩\u200D🎤 woman_student~=👩\u200D🎓 woman_surfing~=🏄\u200D♀\uFE0F",
  "woman_swimming~=🏊\u200D♀\uFE0F woman_teacher~=👩\u200D🏫 woman_technologist~=👩\u200D💻",
  "woman_tipping_hand~=💁\u200D♀\uFE0F woman_vampire~=🧛\u200D♀\uFE0F",
  "woman_walking~=🚶\u200D♀\uFE0F woman_wearing_turban~=👳\u200D♀\uFE0F woman_with_headscarf~=🧕",
  "woman_with_probing_cane=👩\u200D🦯 woman_zombie=🧟\u200D♀\uFE0F woman~=👩 woman’s_boot:boot=👢",
  "woman’s_clothes:womans_clothes=👚 woman’s_hat:womans_hat=👒 woman’s_sandal:sandal=👡",
  "women_with_bunny_ears=👯\u200D♀\uFE0F women_wrestling=🤼\u200D♀\uFE0F women’s_room:womens=🚺",
  "woozy_face=🥴 world_map=🗺 worried_face:worried=😟 wrapped_gift:gift=🎁 wrench=🔧",
  "writing_hand~=✍ yarn=🧶 yawning_face=🥱 yellow_circle=🟡 yellow_heart=💛 yellow_square=🟨",
  "yemen:flag_for_yemen=🇾🇪 yen_banknote:yen=💴 yin_yang=☯ yo-yo=🪀 zambia:flag_for_zambia=🇿🇲",
  "zany_face=🤪 zebra=🦓 zimbabwe:flag_for_zimbabwe=🇿🇼 zipper-mouth_face:zipper__mouth_face=🤐",
  "zombie=🧟 zzz=💤 åland_islands:flag_for_åland_islands=🇦🇽"]

end ClientModel.Emoji
