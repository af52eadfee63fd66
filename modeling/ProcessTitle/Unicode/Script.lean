import ProcessTitle.Unicode.Runs

/-!
# Scripts
-/

namespace ProcessTitle

namespace Unicode

def scriptNames : Array String :=
  #["Adlam", "Ahom", "Anatolian_Hieroglyphs", "Arabic", "Armenian", "Avestan", "Balinese",
   "Bamum", "Bassa_Vah", "Batak", "Bengali", "Beria_Erfe", "Bhaiksuki", "Bopomofo", "Brahmi",
   "Braille", "Buginese", "Buhid", "Canadian_Aboriginal", "Carian", "Caucasian_Albanian",
   "Chakma", "Cham", "Cherokee", "Chorasmian", "Common", "Coptic", "Cuneiform", "Cypriot",
   "Cypro_Minoan", "Cyrillic", "Deseret", "Devanagari", "Dives_Akuru", "Dogra", "Duployan",
   "Egyptian_Hieroglyphs", "Elbasan", "Elymaic", "Ethiopic", "Garay", "Georgian", "Glagolitic",
   "Gothic", "Grantha", "Greek", "Gujarati", "Gunjala_Gondi", "Gurmukhi", "Gurung_Khema", "Han",
   "Hangul", "Hanifi_Rohingya", "Hanunoo", "Hatran", "Hebrew", "Hiragana", "Imperial_Aramaic",
   "Inherited", "Inscriptional_Pahlavi", "Inscriptional_Parthian", "Javanese", "Kaithi",
   "Kannada", "Katakana", "Kawi", "Kayah_Li", "Kharoshthi", "Khitan_Small_Script", "Khmer",
   "Khojki", "Khudawadi", "Kirat_Rai", "Lao", "Latin", "Lepcha", "Limbu", "Linear_A", "Linear_B",
   "Lisu", "Lycian", "Lydian", "Mahajani", "Makasar", "Malayalam", "Mandaic", "Manichaean",
   "Marchen", "Masaram_Gondi", "Medefaidrin", "Meetei_Mayek", "Mende_Kikakui",
   "Meroitic_Cursive", "Meroitic_Hieroglyphs", "Miao", "Modi", "Mongolian", "Mro", "Multani",
   "Myanmar", "Nabataean", "Nag_Mundari", "Nandinagari", "New_Tai_Lue", "Newa", "Nko", "Nushu",
   "Nyiakeng_Puachue_Hmong", "Ogham", "Ol_Chiki", "Ol_Onal", "Old_Hungarian", "Old_Italic",
   "Old_North_Arabian", "Old_Permic", "Old_Persian", "Old_Sogdian", "Old_South_Arabian",
   "Old_Turkic", "Old_Uyghur", "Oriya", "Osage", "Osmanya", "Pahawh_Hmong", "Palmyrene",
   "Pau_Cin_Hau", "Phags_Pa", "Phoenician", "Psalter_Pahlavi", "Rejang", "Runic", "Samaritan",
   "Saurashtra", "Sharada", "Shavian", "Siddham", "Sidetic", "SignWriting", "Sinhala", "Sogdian",
   "Sora_Sompeng", "Soyombo", "Sundanese", "Sunuwar", "Syloti_Nagri", "Syriac", "Tagalog",
   "Tagbanwa", "Tai_Le", "Tai_Tham", "Tai_Viet", "Tai_Yo", "Takri", "Tamil", "Tangsa", "Tangut",
   "Telugu", "Thaana", "Thai", "Tibetan", "Tifinagh", "Tirhuta", "Todhri", "Tolong_Siki", "Toto",
   "Tulu_Tigalari", "Ugaritic", "Vai", "Vithkuqi", "Wancho", "Warang_Citi", "Yezidi", "Yi",
   "Zanabazar_Square"]

def scriptRuns : RunTable := RunTable.ofLengths (readHex
  ["1a,41,4b,1a,1a,6,4b,1a,1a,2f,4b,1,1a,f,4b,1,1a,5,4b,17,1a,1,4b,1f,1a,1,4b,1c1,1a,27,4b,5,1a,5,e",
   ",2,1a,14,3b,70,2e,4,1a,1,2e,3,0,2,2e,4,1a,1,2e,1,0,4,2e,1,1a,1,2e,1,1a,1,2e,3,0,1,2e,1,0,1,2e,14",
   ",0,1,2e,3f,1b,e,2e,10,1f,85,3b,2,1f,a9,0,1,5,26,0,2,5,32,0,2,5,3,0,1,38,37,0,8,38,1b,0,4,38,6,0",
   ",b,4,5,1a,1,4,6,1a,1,4,e,1a,1,4,3,1a,1,4,20,1a,1,4,a,3b,b,4,1a,3b,1,4,6c,1a,1,4,22,92,e,0,1,92",
   ",3c,0,2,92,3,4,30,9e,32,0,e,6a,3b,0,2,6a,3,84,2e,0,2,84,f,0,1,56,1c,0,2,56,1,0,1,92,b,0,5,4,22,0",
   ",5,4,4b,1a,1,4,1d,21,51,3b,4,21,f,1a,2,21,1a,b,4,0,1,b,8,0,2,b,2,0,2,b,16,0,1,b,7,0,1,b,1,0,3,b",
   ",4,0,2,b,9,0,2,b,2,0,2,b,4,0,8,b,1,0,4,b,2,0,1,b,5,0,2,b,19,0,2,31,3,0,1,31,6,0,4,31,2,0,2,31,16",
   ",0,1,31,7,0,1,31,2,0,1,31,2,0,1,31,2,0,2,31,1,0,1,31,5,0,4,31,2,0,2,31,3,0,3,31,1,0,7,31,4,0,1",
   ",31,1,0,7,31,11,0,a,2f,3,0,1,2f,9,0,1,2f,3,0,1,2f,16,0,1,2f,7,0,1,2f,2,0,1,2f,5,0,2,2f,a,0,1,2f",
   ",3,0,1,2f,3,0,2,2f,1,0,f,2f,4,0,2,2f,c,0,7,2f,7,0,1,79,3,0,1,79,8,0,2,79,2,0,2,79,16,0,1,79,7,0",
   ",1,79,2,0,1,79,5,0,2,79,9,0,2,79,2,0,2,79,3,0,7,79,3,0,4,79,2,0,1,79,5,0,2,79,12,0,a,9a,2,0,1,9a",
   ",6,0,3,9a,3,0,1,9a,4,0,3,9a,2,0,1,9a,1,0,1,9a,2,0,3,9a,2,0,3,9a,3,0,3,9a,c,0,4,9a,5,0,3,9a,3,0,1",
   ",9a,4,0,2,9a,1,0,6,9a,1,0,e,9a,15,0,5,9d,d,0,1,9d,3,0,1,9d,17,0,1,9d,10,0,2,9d,9,0,1,9d,3,0,1,9d",
   ",4,0,7,9d,2,0,1,9d,3,0,1,9d,2,0,2,9d,4,0,2,9d,a,0,7,9d,9,40,d,0,1,40,3,0,1,40,17,0,1,40,a,0,1,40",
   ",5,0,2,40,9,0,1,40,3,0,1,40,4,0,7,40,2,0,5,40,3,0,1,40,4,0,2,40,a,0,1,40,3,0,c,55,d,0,1,55,3,0,1",
   ",55,33,0,1,55,3,0,1,55,6,0,4,55,10,0,2,55,1a,0,1,8b,3,0,1,8b,12,0,3,8b,18,0,1,8b,9,0,1,8b,1,0,2",
   ",8b,7,0,3,8b,1,0,4,8b,6,0,1,8b,1,0,1,8b,8,0,6,8b,a,0,2,8b,3,0,c,9f,3a,0,4,1a,1,9f,1c,0,25,4a,2,0",
   ",1,4a,1,0,1,4a,5,0,1,4a,18,0,1,4a,1,0,1,4a,17,0,2,4a,5,0,1,4a,1,0,1,4a,7,0,1,4a,a,0,2,4a,4,0,20",
   ",a0,48,0,1,a0,24,0,4,a0,27,0,1,a0,24,0,1,a0,f,0,1,a0,7,1a,4,a0,2,0,25,64,a0,2a,26,0,1,2a,1,0,5",
   ",2a,1,0,2,2a,2b,1a,1,2a,4,34,100,28,49,0,1,28,4,0,2,28,7,0,1,28,1,0,1,28,4,0,2,28,29,0,1,28,4,0",
   ",2,28,21,0,1,28,4,0,2,28,7,0,1,28,1,0,1,28,4,0,2,28,f,0,1,28,39,0,1,28,4,0,2,28,43,0,2,28,20,0,3",
   ",28,1a,0,6,18,56,0,2,18,6,0,2,13,280,6d,1d,0,3,83,4b,1a,3,83,b,0,7,93,16,0,9,93,1,36,15,1a,2,0,9",
   ",12,14,0,c,94,d,0,1,94,3,0,1,94,2,0,c,46,5e,0,2,46,a,0,6,46,a,0,6,61,2,1a,2,61,1,1a,1,61,14,0,6",
   ",61,59,0,7,61,2b,0,5,13,46,0,a,4d,1f,0,1,4d,c,0,4,4d,c,0,4,4d,1,0,3,4d,c,95,1e,0,2,95,5,0,b,68",
   ",2c,0,4,68,1a,0,6,68,b,0,3,68,2,46,20,11,1c,0,2,11,2,96,3f,0,1,96,1d,0,2,96,b,0,6,96,a,0,6,96,e",
   ",0,2,3b,2e,0,2,3b,c,0,14,7,4d,0,1,7,32,8f,40,a,34,0,8,a,4,4c,38,0,3,4c,f,0,3,4c,3,6e,30,1f,b,0,5",
   ",2a,2b,0,2,2a,3,8f,8,0,8,3b,3,1a,1,3b,d,1a,1,3b,7,1a,4,3b,1,1a,6,3b,1,1a,3,3b,2,1a,1,0,5,4b,26",
   ",2e,5,1f,1,4b,31,2e,5,4b,4,2e,5,4b,d,1f,1,4b,46,2e,1,3b,40,4b,100,2e,16,0,2,2e,6,0,2,2e,26,0,2",
   ",2e,6,0,2,2e,8,0,1,2e,1,0,1,2e,1,0,1,2e,1,0,1,2e,1f,0,2,2e,35,0,1,2e,f,0,1,2e,e,0,2,2e,6,0,1,2e",
   ",13,0,2,2e,3,0,1,2e,9,0,1,1a,c,3b,2,1a,57,0,1,1a,b,4b,1,0,2,1a,b,4b,1,1a,f,0,1,4b,d,0,3,1a,22,0",
   ",e,3b,21,0,f,1a,26,2e,1,1a,3,4b,2,1a,6,4b,1,1a,1b,4b,1,1a,11,4b,29,1a,3,0,4,1a,29a,0,16,1a,b,0",
   ",15,1a,3a0,10,100,1a,274,0,2,1a,8a,2b,60,4b,20,1b,74,0,5,1b,7,2a,26,0,1,2a,1,0,5,2a,1,0,2,a1,38",
   ",0,7,a1,2,0,e,a1,1,28,17,0,9,28,7,0,1,28,7,0,1,28,7,0,1,28,7,0,1,28,7,0,1,28,7,0,1,28,7,0,1,28,7",
   ",0,1,1f,20,1a,5e,0,22,33,1a,0,1,33,59,0,c,33,d6,0,1a,1a,15,33,1,1a,1,33,1,1a,19,33,9,3b,4,34,2",
   ",1a,8,33,4,1a,4,0,1,39,56,0,2,3b,2,1a,2,39,3,1a,1,41,5a,1a,2,41,3,0,5,e,2b,0,1,34,5e,0,1,1a,10,e",
   ",20,1a,26,0,9,1a,1,41,10,34,1f,0,1,1a,40,34,1f,1a,51,41,2f,1a,1,41,58,1a,a8,33,19c0,1a,40,33",
   ",5200,ad,48d,0,3,ad,37,0,9,50,30,a8,12c,0,14,1f,60,8,58,0,8,1a,22,4b,66,1a,3,4b,52,0,14,4b,f,91",
   ",2d,0,3,1a,a,0,6,7f,38,0,8,85,46,0,8,85,c,0,6,21,20,43,2e,1a,1,43,1,82,24,0,b,82,1,34,1d,0,3,3e",
   ",4e,0,1,1a,1,3e,a,0,4,3e,2,64,1f,0,1,17,37,0,9,17,e,0,2,17,a,0,2,17,4,64,20,97,43,0,18,97,5,5b",
   ",17,0,a,28,6,0,2,28,6,0,2,28,6,0,9,28,7,0,1,28,7,0,1,4b,2b,1a,1,4b,9,2e,1,4b,4,1a,2,0,4,18,50,5b",
   ",2e,0,2,5b,a,0,6,34,2ba4,0,c,34,17,0,4,34,31,0,2104,33,16e,0,2,33,6a,0,26,4b,7,0,c,5,5,0,5,38,1a",
   ",0,1,38,5,0,1,38,1,0,1,38,2,0,1,38,2,0,1,38,a,4,1ee,1a,2,4,90,0,20,4,10,3b,10,1a,a,0,6,3b,e,1f,2",
   ",1a,23,0,1,1a,13,0,1,1a,4,0,4,4,5,0,1,4,87,0,2,1a,1,0,1,1a,20,4b,1a,1a,6,4b,1a,1a,b,41,a,1a,1,41",
   ",2d,1a,2,34,1f,0,3,34,6,0,2,34,6,0,2,34,6,0,2,34,3,0,3,1a,7,0,1,1a,7,0,a,1a,5,0,2,4f,c,0,1,4f,1a",
   ",0,1,4f,13,0,1,4f,2,0,1,4f,f,0,2,4f,e,0,22,4f,7b,0,5,1a,3,0,4,1a,2d,0,3,1a,9,2e,4f,0,1,1a,d,0,3",
   ",2e,1,0,2f,1a,2d,3b,1,0,82,51,1d,0,3,14,31,0,f,3b,1,1a,1b,0,4,71,24,0,9,71,3,2c,1b,0,5,73,2b,0,5",
   ",a7,1e,0,1,a7,1,74,24,0,4,74,e,0,2a,20,50,87,30,7b,1e,0,2,7b,a,0,6,7a,24,0,4,7a,24,0,4,26,28,0,8",
   ",15,34,0,b,15,1,a9,b,0,1,a9,f,0,1,a9,7,0,1,a9,2,0,1,a9,b,0,1,a9,f,0,1,a9,7,0,1,a9,2,0,3,a3,34,0",
   ",c,4e,137,0,9,4e,16,0,a,4e,8,0,18,4b,6,0,1,4b,2a,0,1,4b,9,0,45,1d,6,0,2,1d,1,0,1,1d,2c,0,1,1d,2",
   ",0,3,1d,1,0,2,1d,1,3a,16,0,1,3a,9,7d,20,65,1f,0,8,65,9,0,30,37,13,0,1,37,2,0,5,37,5,80,1c,0,3,80",
   ",1,52,1a,0,5,52,1,89,1a,0,26,5e,20,5d,18,0,4,5d,14,0,2,5d,2e,44,4,0,1,44,2,0,5,44,8,0,1,44,3,0,1",
   ",44,1d,0,2,44,3,0,4,44,a,0,7,44,9,0,7,76,20,72,20,0,20,57,27,0,4,57,c,0,9,6,36,0,3,6,7,3d,16,0,2",
   ",3d,8,3c,13,0,5,3c,8,81,12,0,7,81,4,0,c,81,7,0,50,77,49,0,37,70,33,0,d,70,33,0,7,70,6,35,28,0,8",
   ",35,a,0,6,29,26,0,3,29,1d,0,8,29,2,0,d0,4,1f,0,1,ac,2a,0,1,ac,3,0,2,ac,2,0,10,4,6,0,8,4,9,0,21,4",
   ",6,75,28,0,8,8c,2a,0,16,78,1a,0,26,19,1c,0,14,27,17,0,9,f,4e,0,4,f,24,0,9,f,1,3f,43,0,a,3f,1,0,2",
   ",8d,19,0,7,8d,a,0,6,16,35,0,1,16,12,0,8,53,27,0,9,86,60,0,1,8b,14,0,b,47,12,0,1,47,2f,0,3e,63,7",
   ",0,1,63,1,0,1,63,4,0,1,63,f,0,1,63,b,0,6,48,3b,0,5,48,a,0,6,2d,4,0,1,2d,8,0,2,2d,2,0,2,2d,16,0,1",
   ",2d,7,0,1,2d,2,0,1,2d,5,0,1,3b,1,2d,9,0,2,2d,2,0,2,2d,3,0,2,2d,1,0,6,2d,1,0,5,2d,7,0,2,2d,7,0,3",
   ",2d,5,0,b,a6,a,0,1,a6,1,0,2,a6,1,0,1,a6,26,0,1,a6,a,0,1,a6,1,0,2,a6,1,0,1,a6,4,0,1,a6,a,0,1,a6,2",
   ",0,8,a6,2,0,1d,69,5c,0,1,69,5,0,1e,a2,48,0,8,a2,a,0,a6,88,36,0,2,88,26,0,22,60,45,0,b,60,a,0,6",
   ",61,d,0,13,99,3a,0,6,99,a,0,6,64,14,0,1c,2,1b,0,2,2,f,0,4,2,17,0,b9,23,3c,0,64,ab,53,0,c,ab,1,22",
   ",7,0,2,22,1,0,2,22,8,0,1,22,2,0,1,22,1e,0,1,22,2,0,2,22,c,0,9,22,a,0,46,67,8,0,2,67,2e,0,2,67,b",
   ",0,1b,ae,48,0,8,8e,53,0,d,13,10,7e,39,0,7,21,a,0,56,86,8,0,58,90,22,0,e,90,a,0,6,d,9,0,1,d,2d,0",
   ",1,d,e,0,a,d,1d,0,3,58,20,0,2,58,16,0,1,58,e,0,49,59,7,0,1,59,2,0,1,59,2c,0,3,59,1,0,1,59,2,0,1",
   ",59,9,0,8,59,a,0,6,30,6,0,1,30,2,0,1,30,25,0,1,30,2,0,1,30,6,0,7,30,a,0,6,a4,2c,0,4,a4,a,0,f6,54",
   ",19,0,7,42,11,0,1,42,29,0,3,42,1d,0,55,50,1,0,f,9a,32,0,d,9a,1,1c,39a,0,66,1c,6f,0,1,1c,5,0,b,1c",
   ",c4,0,a4c,1e,63,0,d,25,456,0,a,25,f9b,0,5,3,247,0,1ab9,32,3a,0,6c6,8,239,0,7,62,1f,0,1,62,a,0,4",
   ",62,2,9b,4f,0,1,9b,a,0,6,9,1e,0,2,9,6,0,a,7c,46,0,a,7c,a,0,1,7c,7,0,1,7c,15,0,5,7c,13,0,1b0,49",
   ",3a,0,c6,5a,5b,0,5,c,19,0,2,c,19,0,2c,5f,4b,0,4,5f,39,0,7,5f,11,0,40,9c,1,6b,1,33,2,45,1,0,b,33",
   ",7,0,9,9c,1b00,45,1d6,0,29,45,1,9c,1f,0,61,9c,73,0,21fd,41,4,0,1,41,7,0,1,41,2,0,1,41,1,39,11f",
   ",41,3,0,f,39,1,0,1d,39,3,0,2,41,1,0,e,41,4,0,8,6b,18c,0,904,24,6b,0,5,24,d,0,3,24,9,0,7,24,a,0,2",
   ",24,4,1a,4,0,f5c,1a,fd,0,3,1a,1b4,0,6,1a,17,0,f,1a,11,0,f,3b,2e,0,2,3b,17,0,9,1a,74,0,3c,1a,f6,0",
   ",a,1a,27,0,2,1a,3e,3b,3,1a,11,3b,8,1a,2,3b,7,1a,1e,3b,4,1a,3d,0,15,2e,46,0,7a,1a,14,0,c,1a,14,0",
   ",c,1a,57,0,9,1a,19,0,87,1a,55,0,1,1a,47,0,1,1a,2,0,2,1a,1,0,2,1a,2,0,2,1a,4,0,1,1a,c,0,1,1a,1,0",
   ",1,1a,7,0,1,1a,41,0,1,1a,4,0,2,1a,8,0,1,1a,7,0,1,1a,1c,0,1,1a,4,0,1,1a,5,0,1,1a,1,0,3,1a,7,0,1",
   ",1a,154,0,2,1a,124,0,2,1a,32,8a,28c,0,f,8a,5,0,1,8a,f,0,450,4b,1f,0,6,4b,6,0,d5,2b,7,0,1,2b,11,0",
   ",2,2b,7,0,1,2b,2,0,1,2b,5,0,5,1f,3e,0,21,1f,1,0,70,6c,2d,0,3,6c,e,0,2,6c,a,0,4,6c,2,0,140,a5,1f",
   ",0,11,aa,3a,0,5,aa,1,0,1d0,66,2a,0,d6,6f,2b,0,4,6f,1,0,c0,98,1f,0,1,98,16,0,8,98,2,0,e0,28,7,0,1",
   ",28,4,0,1,28,2,0,1,28,f,0,1,5c,c5,0,2,5c,10,0,29,1,4c,0,4,1,a,0,4,1,2,0,311,1a,44,0,4c,1a,3d,0",
   ",c2,4,4,0,1,4,1b,0,1,4,2,0,1,4,1,0,2,4,1,0,1,4,a,0,1,4,4,0,1,4,1,0,1,4,1,0,6,4,1,0,4,4,1,0,1,4,1",
   ",0,1,4,1,0,1,4,3,0,1,4,2,0,1,4,1,0,2,4,1,0,1,4,1,0,1,4,1,0,1,4,1,0,1,4,1,0,1,4,2,0,1,4,1,0,2,4,4",
   ",0,1,4,7,0,1,4,4,0,1,4,4,0,1,4,1,0,1,4,a,0,1,4,11,0,5,4,3,0,1,4,5,0,1,4,11,0,34,4,2,0,10e,1a,2c",
   ",0,4,1a,64,0,c,1a,f,0,2,1a,f,0,1,1a,f,0,1,1a,25,0,a,1a,ae,0,38,1a,1a,39,1,1a,2,0,d,1a,2c,0,4,1a",
   ",9,0,7,1a,2,0,e,1a,6,0,9a,1a,3d9,0,3,1a,11,0,3,1a,d,0,3,1a,da,0,6,1a,c,0,4,1a,1,0,f,1a,c,0,4,1a",
   ",38,0,8,1a,a,0,6,1a,28,0,8,1a,1e,0,2,1a,c,0,4,1a,2,0,e,1a,9,0,27,1a,158,0,8,1a,e,0,2,1a,d,0,3,1a",
   ",b,0,3,1a,39,0,1,1a,1,0,4,1a,10,0,2,1a,c,0,4,1a,a,0,7,1a,93,0,1,1a,67,0,405,33,a6e0,0,20,33,111e",
   ",0,2,33,168e,0,2,33,1d31,0,f,33,26e,0,9a2,33,21e,0,5e2,33,134b,0,5,33,212a,0,acb87,1a,1,0,1e,1a",
   ",60,0,80,3b,f0,0,2fe10"])

/-- The position in `scriptNames` of the script of a code point, if it has one. -/
def scriptOf (cp : Nat) : Option Nat :=
  match scriptRuns.valueAt cp with
  | 0 => none
  | i + 1 => some i

end Unicode

end ProcessTitle
