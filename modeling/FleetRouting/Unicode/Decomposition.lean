import FleetRouting.Unicode.Table
/-!
# FleetRouting.Unicode.Decomposition

**Characters that are made of others.** A stretch of the table says for one character whether it is put together
again in composed text, and then all characters that it is made of, the marks in canonical order. The syllables
of Hangul are not listed: they are made by arithmetic.
-/

namespace FleetRouting.Unicode

/-- What characters are made of. -/
def decompositions : List Stretch := readTable [
  "mAABiB4A AABiB4B AABiB4C AABiB4D AABiB4I AABiB4K BABiD5H AABiF4A AABiF4B AABiF4C AABiF4I AABiJ4A AABiJ4B",
  "AABiJ4C AABiJ4I BABiO4D AABiP4A AABiP4B AABiP4C AABiP4D AABiP4I CABiV4A AABiV4B AABiV4C AABiV4I AABiZ4B",
  "CABjB4A AABjB4B AABjB4C AABjB4D AABjB4I AABjB4K BABjD5H AABjF4A AABjF4B AABjF4C AABjF4I AABjJ4A AABjJ4B",
  "AABjJ4C AABjJ4I BABjO4D AABjP4A AABjP4B AABjP4C AABjP4D AABjP4I CABjV4A AABjV4B AABjV4C AABjV4I AABjZ4B",
  "BABjZ4I AABiB4E AABjB4E AABiB4G AABjB4G AABiB5I AABjB5I AABiD4B AABjD4B AABiD4C AABjD4C AABiD4H AABjD4H",
  "AABiD4M AABjD4M AABiE4M AABjE4M CABiF4E AABjF4E AABiF4G AABjF4G AABiF4H AABjF4H AABiF5I AABjF5I AABiF4M",
  "AABjF4M AABiH4C AABjH4C AABiH4G AABjH4G AABiH4H AABjH4H AABiH5H AABjH5H AABiI4C AABjI4C CABiJ4D AABjJ4D",
  "AABiJ4E AABjJ4E AABiJ4G AABjJ4G AABiJ5I AABjJ5I AABiJ4H DABiK4C AABjK4C AABiL5H AABjL5H BABiM4B AABjM4B",
  "AABiM5H AABjM5H AABiM4M AABjM4M EABiO4B AABjO4B AABiO5H AABjO5H AABiO4M AABjO4M DABiP4E AABjP4E AABiP4G",
  "AABjP4G AABiP4L AABjP4L CABiS4B AABjS4B AABiS5H AABjS5H AABiS4M AABjS4M AABiT4B AABjT4B AABiT4C AABjT4C",
  "AABiT5H AABjT5H AABiT4M AABjT4M AABiU5H AABjU5H AABiU4M AABjU4M CABiV4D AABjV4D AABiV4E AABjV4E AABiV4G",
  "AABjV4G AABiV4K AABjV4K AABiV4L AABjV4L AABiV5I AABjV5I AABiX4C AABjX4C AABiZ4C AABjZ4C AABiZ4I AABia4B",
  "AABja4B AABia4H AABja4H AABia4M AABja4M hBABiP4b AABjP4b NABiV4b AABjV4b cABiB4M AABjB4M AABiJ4M AABjJ4M",
  "AABiP4M AABjP4M AABiV4M AABjV4M AABiV4I4E AABjV4I4E AABiV4I4B AABjV4I4B AABiV4I4M AABjV4I4M AABiV4I4A",
  "AABjV4I4A BABiB4I4E AABjB4I4E AABiB4H4E AABjB4H4E AABmG4E AABnG4E CABiH4M AABjH4M AABiL4M AABjL4M AABiP5I",
  "AABjP5I AABiP5I4E AABjP5I4E AABtX4M AAB0S4M AABjK4M DABiH4B AABjH4B CABiO4A AABjO4A AABiB4K4B AABjB4K4B",
  "AABmG4B AABnG4B AABmY4B AABnY4B AABiB4P AABjB4P AABiB4R AABjB4R AABiF4P AABjF4P AABiF4R AABjF4R AABiJ4P",
  "AABjJ4P AABiJ4R AABjJ4R AABiP4P AABjP4P AABiP4R AABjP4R AABiS4P AABjS4P AABiS4R AABjS4R AABiV4P AABjV4P",
  "AABiV4R AABjV4R AABiT5G AABjT5G AABiU5G AABjU5G CABiI4M AABjI4M GABiB4H AABjB4H AABiF5H AABjF5H AABiP4I4E",
  "AABjP4I4E AABiP4D4E AABjP4D4E AABiP4H AABjP4H AABiP4H4E AABjP4H4E AABiZ4E AABjZ4E oMAA4A AAA4B BAA4T AAA4I4B",
  "hPAA1Z JAAhb GABlI4B AAB8R4B AAAlX AAB8V4B AAB8X4B AAB8Z4B BAB8f4B BAB9F4B AAB9J4B AAB9Z4I4B ZAB8Z4I AAB9F4I",
  "AAB9R4B AAB9V4B AAB9X4B AAB9Z4B AAB-F4I4B ZAB9Z4I AAB-F4I AAB9f4B AAB-F4B AAB-J4B EAB-S4B AAB-S4I hLABhgV4A",
  "AABhgV4I BABhgT4B DABhgG4I EABhga4B AABhgY4A AABhhD4G KABhgY4G fABhhY4G WABhhV4A AABhhV4I BABhhT4B DABhiW4I",
  "EABhha4B AABhhY4A AABhiD4G XABhjU4P AABhjV4P iJABhgW4G AABhhW4G NABhgQ4G AABhhQ4G AABhgQ4I AABhhQ4I CABhgV4G",
  "AABhhV4G CABhmY4I AABhmZ4I AABhgW4I AABhhW4I AABhgX4I AABhhX4I CABhgY4E AABhhY4E AABhgY4I AABhhY4I AABhge4I",
  "AABhhe4I CABhnI4I AABhnJ4I AABhhN4I AABhiN4I AABhhD4E AABhiD4E AABhhD4I AABhiD4I AABhhD4L AABhiD4L AABhhH4I",
  "AABhiH4I CABhhL4I AABhiL4I pIABhxHhyT AABhxHhyU AABhyIhyU AABhxHhyV AABhyKhyU kZABh2VhyU BABh2BhyU QABh2ShyU",
  "yVABipIipc HABipQipc CABipTipc hDAAioVipc AAAioWipc AAAioXipc AAAiocipc AAAipBipc AAAipCipc AAAipLipc",
  "AAAipPipc jLABiuHite AABiuHiuX PAAitBitc AAAitCitc BAAitPitc iTAAixSixc CAAixYixc hCAAiwWixc AAAiwXixc",
  "AAAiwcixc CAAixLixc nJABi6Hi6W CABi6Hi5e AABi6Hi6X PAAi5Bi5c AAAi5Ci5c hWABi8Si-X hVABi-Gi9e AABi-Hi9e",
  "AABi-Gi-X jbABjiGjiW jXABjlfjmV GABjmGjmV AABjmGjmW BABjmGjmC AABjmGjmCjmV jeABjqGjpe AABjqHjpe AABjqGjqX",
  "kNABjuZjuK BABjuZjuP AABjuZjuPjuK AABjuZjuf rEAAj6Cj9X JAAj6Mj9X EAAj6Rj9X EAAj6Wj9X EAAj6bj9X MAAj6Aj9V",
  "JAAj7Rj7S BAAj7Rj7U AAAj9Sj8A BAAj9Tj8A IAAj7Rj8A RAAj8Sj9X JAAj8cj9X EAAj9Bj9X EAAj9Gj9X EAAj9Lj9X MAAj8Qj9V",
  "jMABkhFkhO i2fABm4Fm5V BABm4Hm5V BABm4Jm5V BABm4Lm5V BABm4Nm5V DABm4Rm5V hIABm5am5V BABm5cm5V CABm5em5V",
  "AABm5fm5V BABm6Cm5V 1cABiB5F AABjB5F AABiC4H AABjC4H AABiC5D AABjC5D AABiC5R AABjC5R AABiD5H4B AABjD5H4B",
  "AABiE4H AABjE4H AABiE5D AABjE5D AABiE5R AABjE5R AABiE5H AABjE5H AABiE5N AABjE5N AABiF4E4A AABjF4E4A AABiF4E4B",
  "AABjF4E4B AABiF5N AABjF5N AABiF5Q AABjF5Q AABiF5H4G AABjF5H4G AABiG4H AABjG4H AABiH4E AABjH4E AABiI4H AABjI4H",
  "AABiI5D AABjI5D AABiI4I AABjI4I AABiI5H AABjI5H AABiI5O AABjI5O AABiJ5Q AABjJ5Q AABiJ4I4B AABjJ4I4B AABiL4B",
  "AABjL4B AABiL5D AABjL5D AABiL5R AABjL5R AABiM5D AABjM5D AABiM5D4E AABjM5D4E AABiM5R AABjM5R AABiM5N AABjM5N",
  "AABiN4B AABjN4B AABiN4H AABjN4H AABiN5D AABjN5D AABiO4H AABjO4H AABiO5D AABjO5D AABiO5R AABjO5R AABiO5N",
  "AABjO5N AABiP4D4B AABjP4D4B AABiP4D4I AABjP4D4I AABiP4E4A AABjP4E4A AABiP4E4B AABjP4E4B AABiQ4B AABjQ4B",
  "AABiQ4H AABjQ4H AABiS4H AABjS4H AABiS5D AABjS5D AABiS5D4E AABjS5D4E AABiS5R AABjS5R AABiT4H AABjT4H AABiT5D",
  "AABjT5D AABiT4B4H AABjT4B4H AABiT4M4H AABjT4M4H AABiT5D4H AABjT5D4H AABiU4H AABjU4H AABiU5D AABjU5D AABiU5R",
  "AABjU5R AABiU5N AABjU5N AABiV5E AABjV5E AABiV5Q AABjV5Q AABiV5N AABjV5N AABiV4D4B AABjV4D4B AABiV4E4I",
  "AABjV4E4I AABiW4D AABjW4D AABiW5D AABjW5D AABiX4A AABjX4A AABiX4B AABjX4B AABiX4I AABjX4I AABiX4H AABjX4H",
  "AABiX5D AABjX5D AABiY4H AABjY4H AABiY4I AABjY4I AABiZ4H AABjZ4H AABia4C AABja4C AABia5D AABja5D AABia5R",
  "AABja5R AABjI5R AABjU4I AABjX4K AABjZ4K BABrf4H EABiB5D AABjB5D AABiB4J AABjB4J AABiB4C4B AABjB4C4B AABiB4C4A",
  "AABjB4C4A AABiB4C4J AABjB4C4J AABiB4C4D AABjB4C4D AABiB5D4C AABjB5D4C AABiB4G4B AABjB4G4B AABiB4G4A AABjB4G4A",
  "AABiB4G4J AABjB4G4J AABiB4G4D AABjB4G4D AABiB5D4G AABjB5D4G AABiF5D AABjF5D AABiF4J AABjF4J AABiF4D AABjF4D",
  "AABiF4C4B AABjF4C4B AABiF4C4A AABjF4C4A AABiF4C4J AABjF4C4J AABiF4C4D AABjF4C4D AABiF5D4C AABjF5D4C AABiJ4J",
  "AABjJ4J AABiJ5D AABjJ5D AABiP5D AABjP5D AABiP4J AABjP4J AABiP4C4B AABjP4C4B AABiP4C4A AABjP4C4A AABiP4C4J",
  "AABjP4C4J AABiP4C4D AABjP4C4D AABiP5D4C AABjP5D4C AABiP4b4B AABjP4b4B AABiP4b4A AABjP4b4A AABiP4b4J AABjP4b4J",
  "AABiP4b4D AABjP4b4D AABiP4b5D AABjP4b5D AABiV5D AABjV5D AABiV4J AABjV4J AABiV4b4B AABjV4b4B AABiV4b4A",
  "AABjV4b4A AABiV4b4J AABjV4b4J AABiV4b4D AABjV4b4D AABiV4b5D AABjV4b5D AABiZ4A AABjZ4A AABiZ5D AABjZ5D AABiZ4J",
  "AABjZ4J AABiZ4D AABjZ4D GAB9R4T AAB9R4U AAB9R4T4A AAB9R4U4A AAB9R4T4B AAB9R4U4B AAB9R4T6C AAB9R4U6C AAB8R4T",
  "AAB8R4U AAB8R4T4A AAB8R4U4A AAB8R4T4B AAB8R4U4B AAB8R4T6C AAB8R4U6C AAB9V4T AAB9V4U AAB9V4T4A AAB9V4U4A",
  "AAB9V4T4B AAB9V4U4B CAB8V4T AAB8V4U AAB8V4T4A AAB8V4U4A AAB8V4T4B AAB8V4U4B CAB9X4T AAB9X4U AAB9X4T4A",
  "AAB9X4U4A AAB9X4T4B AAB9X4U4B AAB9X4T6C AAB9X4U6C AAB8X4T AAB8X4U AAB8X4T4A AAB8X4U4A AAB8X4T4B AAB8X4U4B",
  "AAB8X4T6C AAB8X4U6C AAB9Z4T AAB9Z4U AAB9Z4T4A AAB9Z4U4A AAB9Z4T4B AAB9Z4U4B AAB9Z4T6C AAB9Z4U6C AAB8Z4T",
  "AAB8Z4U AAB8Z4T4A AAB8Z4U4A AAB8Z4T4B AAB8Z4U4B AAB8Z4T6C AAB8Z4U6C AAB9f4T AAB9f4U AAB9f4T4A AAB9f4U4A",
  "AAB9f4T4B AAB9f4U4B CAB8f4T AAB8f4U AAB8f4T4A AAB8f4U4A AAB8f4T4B AAB8f4U4B CAB-F4T AAB-F4U AAB-F4T4A",
  "AAB-F4U4A AAB-F4T4B AAB-F4U4B AAB-F4T6C AAB-F4U6C BAB9F4U BAB9F4U4A BAB9F4U4B BAB9F4U6C AAB-J4T AAB-J4U",
  "AAB-J4T4A AAB-J4U4A AAB-J4T4B AAB-J4U4B AAB-J4T6C AAB-J4U6C AAB9J4T AAB9J4U AAB9J4T4A AAB9J4U4A AAB9J4T4B",
  "AAB9J4U4B AAB9J4T6C AAB9J4U6C AAB9R4A AAA9R4B AAB9V4A AAA9V4B AAB9X4A AAA9X4B AAB9Z4A AAA9Z4B AAB9f4A AAA9f4B",
  "AAB-F4A AAA-F4B AAB-J4A AAA-J4B CAB9R4T6F AAB9R4U6F AAB9R4T4A6F AAB9R4U4A6F AAB9R4T4B6F AAB9R4U4B6F",
  "AAB9R4T6C6F AAB9R4U6C6F AAB8R4T6F AAB8R4U6F AAB8R4T4A6F AAB8R4U4A6F AAB8R4T4B6F AAB8R4U4B6F AAB8R4T6C6F",
  "AAB8R4U6C6F AAB9X4T6F AAB9X4U6F AAB9X4T4A6F AAB9X4U4A6F AAB9X4T4B6F AAB9X4U4B6F AAB9X4T6C6F AAB9X4U6C6F",
  "AAB8X4T6F AAB8X4U6F AAB8X4T4A6F AAB8X4U4A6F AAB8X4T4B6F AAB8X4U4B6F AAB8X4T6C6F AAB8X4U6C6F AAB-J4T6F",
  "AAB-J4U6F AAB-J4T4A6F AAB-J4U4A6F AAB-J4T4B6F AAB-J4U4B6F AAB-J4T6C6F AAB-J4U6C6F AAB9J4T6F AAB9J4U6F",
  "AAB9J4T4A6F AAB9J4U4A6F AAB9J4T4B6F AAB9J4U4B6F AAB9J4T6C6F AAB9J4U6C6F AAB9R4G AAB9R4E AAB9R4A6F AAB9R6F",
  "AAB9R4B6F BAB9R6C AAB9R6C6F AAB8R4G AAB8R4E AAB8R4A AAA8R4B AAB8R6F BAA9Z CABlI6C AAB9X4A6F AAB9X6F AAB9X4B6F",
  "BAB9X6C AAB9X6C6F AAB8V4A AAA8V4B AAB8X4A AAA8X4B AAB8X6F AABn9f4A AABn9f4B AABn9f6C AAB9Z4G AAB9Z4E AAB9Z4I4A",
  "AAA9Z4I4B CAB9Z6C AAB9Z4I6C AAB8Z4G AAB8Z4E AAB8Z4A AAA8Z4B BABn_e4A AABn_e4B AABn_e6C AAB-F4G AAB-F4E",
  "AAB-F4I4A AAA-F4I4B AAB-B4T AAB-B4U AAB-F6C AAB-F4I6C AAB9F4G AAB9F4E AAB9F4A AAA9F4B AAB9B4U AABlI4A AAAlI4B",
  "AAAjA CAB-J4A6F AAB-J6F AAB-J4B6F BAB-J6C AAB-J6C6F AAB8f4A AAA8f4B AAB9J4A AAA9J4B AAB9J6F AAAlU CAAogC",
  "AAAogD pEAA9J DAAiL AAAiB4K jOABosQ5Y AABosS5Y SABosU5Y eABouQ5Y AABouU5Y AABouS5Y hUABowD5Y EABowI5Y CABowL5Y",
  "XABoxD5Y BABoxF5Y aABoxc5Y CABoyD5Y CABoyF5Y BABoyI5Y WABhd5Y BABozB5Y KABoyN5Y AABhc5Y AABhe5Y AABozE5Y",
  "AABozF5Y CABozS5Y AABozT5Y CABozW5Y AABozX5Y GABoza5Y AABozb5Y CABo0C5Y AABo0D5Y CABo0G5Y AABo0H5Y hCABo1C5Y",
  "AABo1I5Y AABo1J5Y AABo1L5Y hQABozc5Y AABozd5Y AABo0R5Y AABo0S5Y GABo1S5Y AABo1T5Y AABo1U5Y AABo1V5Y hbAAsgI",
  "AAAsgJ h9RAAq2d5Y hrPABsiLskZ BABsiNskZ BABsiPskZ BABsiRskZ BABsiTskZ BABsiVskZ BABsiXskZ BABsiZskZ BABsibskZ",
  "BABsidskZ BABsifskZ BABsjBskZ CABsjEskZ BABsjGskZ BABsjIskZ GABsjPskZ AABsjPska BABsjSskZ AABsjSska BABsjVskZ",
  "AABsjVska BABsjYskZ AABsjYska BABsjbskZ AABsjbska WABsiGskZ JABskdskZ NABslLskZ BABslNskZ BABslPskZ BABslRskZ",
  "BABslTskZ BABslVskZ BABslXskZ BABslZskZ BABslbskZ BABsldskZ BABslfskZ BABsmBskZ CABsmEskZ BABsmGskZ BABsmIskZ",
  "GABsmPskZ AABsmPska BABsmSskZ AABsmSska BABsmVskZ AABsmVska BABsmYskZ AABsmYska BABsmbskZ AABsmbska WABslGskZ",
  "CABsnPskZ AABsnQskZ AABsnRskZ AABsnSskZ DABsndskZ hygBAAhjiI AAA53U AAAhj2K AAAhjmI AAA72R AAAzxS AAA0_F",
  "AAAhn8c AAAhn8c AAA2qR AAAhkuR AAA1sH AAA2qI AAA4vW AAA9zJ AAA_8F AAAhhxf AAAhh9a AAAhinY AAAhkkP AAA6wC",
  "AAA7ob AAA8mZ AAA8-e AAAhhhd AAAhkrK AAAhmvR AAAz0C AAA07V AAA64E AAA8wb AAAhhxN AAAhnwe AAA3qQ AAA7_L AAAhhuN",
  "AAAhirE AAA42J AAAhguY AAAhigf AAA32K AAA54X AAA7rK AAA83c AAAhkmO AAAz8G AAA0tX AAA02e AAA5mE AAA62T AAA8wQ",
  "AAA93H AAAhggB AAAhhwG AAAhhyc AAAhjvP AAAhl5S AAAhm7P AAAhnva AAA-kM AAA-rf AAA_tA AAAhg-J AAAhk4E AAAhnzf",
  "AAAhi2W AAA2mf AAA34E AAA_jA AAAhgje AAA8zC AAA-mK AAAhjmC AAAhl3X AAA2mY AAA3jC AAA6wT AAA7ua AAA74P AAA_pP",
  "AAA_xX AAAhlyL AAA02S AAAhgkL AAA0uc AAA0uM AAA-wc AAA_te AAAhg_R AAAhlzV AAAhi8A AAA42P AAA6wC AAAhi3e AAAzxZ",
  "AAA2_H AAA4gS AAA88H AAA9rQ AAA04X AAA-nb AAAz9f AAA39J AAAzwN AAA7mM AAA5rY AAA_pC AAA0-D AAA2ie AAA94B",
  "AAAhhiJ AAAhi1K AAA69a AAAhj9Q AAA7kI AAA43e AAAhg3F AAA49A AAA9rF AAAz1O AAA0rJ AAA0uJ AAA6kB AAA_nH AAAhgzP",
  "AAAhi2S AAAhkuP AAA03V AAA1iC AAA2rT AAA33M AAA5uF AAA7_e AAA-pK AAAhltN AAAhmzK AAAhn0X AAAhn2O AAA00b AAA52G",
  "AAA67X AAAhj7C AAA3zU AAA4sQ AAA4wA AAA5ka AAA75D AAA8qJ AAA9kJ AAA-uK AAA_vU AAAhgjP AAAhj5G AAAhhnO AAAhkhD",
  "AAAhk6K AAA0wX AAA01D AAA1ld AAA8mI AAAhimC AAAhi1K AAA32J AAA3_V AAA47b AAA69O AAA_he AAA87V AAAz3E AAA13Z",
  "AAA2_H AAA3ta AAA4gc AAA89S AAA9jJ AAA_8a AAAhgiG AAAhkxU AAAhl3W AAAhl6I AAAhmgY AAAz8L AAA-tO AAAhktU",
  "AAAhl1Y AAA4nB AAAz0G AAA0ma AAA2_O AAA3hf AAA5sZ AAA6wC AAA8uO AAA9yC AAAhhnc AAAhkjc AAAhn8N AAA50I AAAhlxO",
  "AAA00J AAA57b AAA5_T AAA7qB AAA70c AAA9gJ AAA9qZ AAA-jL AAA_oQ AAAhmie AAA0rN AAA4xO AAAhlzY AAA0hL AAA3oZ",
  "AAA7vK AAAhj5K AAA38L AAA4qE AAA6gX AAA88H AAAhl0G AAA0xJ AAA1gP AAA3jF AAA5wT AAA56O AAA6lI AAA7nF AAA9gG",
  "AAA9vC AAA_7Z AAAhimP AAAhinB AAAhkuM AAAhl3C AAA05f AAA71a AAA1gd AAA8uQ AAA9kY AAAhhva AAAhl1D AAAhniX",
  "AAAhn0f AAA58X AAA7uL AAAhgvI AAA-2L AAA-5A AAA_kS AAA82A AAA8kZ AAAhi6Y AAAz2A AAAhg5W AAA0xa AAA0wH AAA31G",
  "AAA42T AAA_mW AAA28F AAA7oe AAA51U AAAhj5b AAAhiiM AAAhlyN AAAhisL AAA32T AAA0qA AAA1uA CAA2ia BAA5zU CAA0ue",
  "AAA85K AAA92K AAA-pc AAA-qe AAA-rF AAA-sP AAAhl6W AAA_le AAA_9d BAAhhwS BAAhi3Y CAAhkhY AAAhknd DAAhmnP",
  "AAAhmnc AAAhmpI AAAhntU AAAhkme AAAhl1X AAAz9O AAA0nH AAA0qN AAA02J AAA03E AAA06R AAA1sd AAA1wG AAA1zI AAA2iA",
  "AAA2lI AAA3jE AAA3jO AAA4kU AAA4rI AAA4sO AAA4vS AAA5qP AAA5vC AAA50R AAA6kF AAA7rX AAA7wa AAA75C AAA8rO",
  "AAA8xL AAA9hC AAA-kR AAA-pe AAA-qJ AAA-qI AAA-qQ AAA-qW AAA-qd AAA-sN AAA-sO AAA-yA AAA-0B AAA--A AAA_vU",
  "AAA_wJ AAA_yB AAA_7S AAAhggF AAAhgvN AAAhgzZ AAAhgzZ AAAhhiX AAAhioQ AAAhisW AAAhi4B AAAhi5Z AAAhjmT AAAhjoI",
  "AAAhj9W AAAhkhY AAAhl3D AAAhl_f AAAhmhb AAA4jV AAAkw3O AAAhgwY CAAzxG AAA0tV AAA0rI AAAz8A AAA0qF AAA0sA",
  "AAA02H AAA03a AAA1sd AAA1qV AAA1sZ AAA1vC AAA2ia AAA2lT AAA2qE AAA2qU AAA2zC AAA25I AAA32S AAA32Z AAA37J",
  "AAA39N AAA4mY AAA4qO AAA4oI AAA4sO AAA4rA AAA4vS AAA4xU AAA4-E AAA5gc AAA5iS AAA5qW AAA5zU AAA54X AAA54b",
  "AAA56W AAA67Z AAA69a AAA7qB AAA72b AAA72L AAA75C AAA8ge AAA8rO AAA99H AAA8xV AAA81P AAA85K AAA9jR AAA9oG",
  "AAA9pb AAA9wd AAA9wf AAA92K AAA92b AAA93U AAA96K AAA96A AAA-mM AAA-1R AAA--A AAA_jb AAA_qb AAA_vU AAA_5e",
  "AAAhggF AAAhg6S AAAhg_P AAAhh7Z AAAhiqB AAAhisG AAAhisW AAAhi1f AAAhi3Y AAAhi2L AAAhi4B AAAhi3e AAAhi3N",
  "AAAhi5Z AAAhi8K AAAhjoI AAAhj5Y AAAhkjS AAAhksZ AAAhkzW AAAhlzc AAAhl3D AAAhl6W AAAhl-b AAAhl_f AAAhmgL",
  "AAAhmhb AAAhm4S AAAhn8c AAAkqiK AAAkqiE AAAks-V AAAu8d AAAwgY AAAwhZ AAAk0yJ AAAk3mQ AAAk_2T AAAhn6D AAAhn8O",
  "iDAAhuZhtU BAAhvShtX KAAhvJhuB AAAhvJhuC AAAhvJhtchuB AAAhvJhtchuC AAAhuQhtX AAAhuQhtY AAAhuQhtc AAAhuRhtc",
  "AAAhuShtc AAAhuThtc AAAhuUhtc AAAhuVhtc AAAhuWhtc BAAhuYhtc AAAhuZhtc AAAhuahtc AAAhubhtc AAAhuchtc BAAhuehtc",
  "BAAhvAhtc AAAhvBhtc BAAhvDhtc AAAhvEhtc BAAhvGhtc AAAhvHhtc AAAhvIhtc AAAhvJhtc AAAhvKhtc AAAhuVhtZ AAAhuRhtf",
  "AAAhubhtf AAAhvEhtf izaABihuS4H aABihua4H i1VABikkZikla BABikkbikla OABiklFikla kCABikpRikpH AABikpSikpH",
  "wbABik6Hik5e AABik6Hik6X hWABik8Cik-J BABik8Eik9b IABik8Lik-C CABik8Qik-J hTABik-Cik-C BABik-Cik9Y AABik-Cik-J",
  "nSABillZilla AABillZillQ BABillZilld nbABiltYiltP AABiltZiltP 7cABimpVimpQ x_IABi4oei4oe AABi4oei4pJ",
  "AABi4oei4of AABi4pJi4of AABi4oei4pA AABi4oei4oei4of AABi4oei4pJi4of AABi4oei4oei4pA jhfABi7rHi7rH AABi7rDi7rH",
  "AABi7rDi7rHi7rH 4_TAAj0qXj0rF AAAj0qYj0rF AAAj0qYj0rFj0rO AAAj0qYj0rFj0rP AAAj0qYj0rFj0rQ AAAj0qYj0rFj0rR",
  "AAAj0qYj0rFj0rS iWAAj0tZj0rF AAAj0taj0rF AAAj0tZj0rFj0rO AAAj0taj0rFj0rO AAAj0tZj0rFj0rP AAAj0taj0rFj0rP",
  "ipxfAAzxd AAAzxY AAAzyB AAAkgpC AAAz7A AAAz9O AAAz9b AAA0gC AAA0ja AAA0kZ AAA0nH AAA0mP AAAtke AAAkhxa AAA0qN",
  "AAA0qU AAA0rE AAA0rX AAAkhoc AAAtlZ AAA0rH AAA0sN AAAkhqL AAA0sX AAA0tE AAAz2M AAA0tM AAA0tV AAAlkuf AAA0vV",
  "AAA0wD AAAtmf AAA0xb AAA0yG AAA0zS AAA0zX AAAtoV AAA02H AAA02J AAA03E AAA03a AAA04F AAA04G AAA04X AAA06J",
  "AAA06R AAA06a AAA07T AAA07d AAA07f AAA07f AAA07f AAAkixM AAA8jQ AAA0-K AAA0-f AAAki7D AAA0_L AAA0_R AAA1gG",
  "AAA1ke AAA1hY AAA1iI AAA1jI AAA1lC AAA1nW AAA1oQ AAA1qT AAA1rD AAA1sE AAA1sE AAA1sZ AAA1tL AAA1tT AAA1uC",
  "AAA14W AAA1wG AAA14X AAA1yR AAA1zU AAA0wH AAA2nO AAA1-O AAA1_U AAA2gN AAA18L AAA2hS AAA2hR AAA2lM AAAklnE",
  "AAA2nS AAA2nX AAA2oG AAA2oa AAA2pC AAA2rC AAAkl1I AAAkl3K AAA2vM AAA2wb AAA2xH AAA2uY AAA2zG AAAt3O AAAt3c",
  "AAA24I AAA25e AAA25e AAAkmuI AAA2-D AAA2-Y AAA2_H AAA2_T AAAkm4Y AAA2_f AAA3gG AAA36T AAA3hC AAAt8B AAA3jA",
  "AAA3jO AAA3mA AAA3kN AAAknvE AAA3qD AAAknvG AAA3rO AAA3rL AAA3rc AAA3vB AAA3vC AAAuhP AAA3vd AAA3xI AAA3xd",
  "AAA3zJ AAAujC AAAkosD AAAujc AAA31Q AAA31T AAA31W AAA32K AAAlo8S AAA33e AAAko5R AAAko5R AAAhgwB AAA35C AAA35C",
  "AAAumH AAAks1Y AAAk4ua AAA37C AAA37L AAAunD AAA38a AAA3-N AAA3-X AAA3_Z AAA4kB AAAupa AAAuoc AAA4kU AAAkp2U",
  "AAA4mH AAA4qI AAA4qM AAA4qO AAA4qM AAA4ra AAA4sO AAA4tS AAA4tE AAA4tP AAA4ue AAA4vS AAA4vW AAA4wQ AAA4wb",
  "AAA4yd AAA41R AAA42U AAA46Q AAAkq4M AAA45d AAA43c AAA47I AAA48D AAA4_E AAAkq_R AAA5hC AAA4-F AAA49J AAAuxO",
  "AAA5jJ AAA5je AAA5kd AAA5jX AAAuzM AAA5qP AAA5rM AAAksgK AAA5vD AAA53Y AAA5yJ AAAu4Z AAA50R AAAu4I AAAu3E",
  "AAA0sS AAA0sV AAA54A AAA50c AAAhglN AAAw-Z AAA54X AAA54b AAA55B AAA56e AAA56T AAAks-D AAAu6J AAA5_a AAA58F",
  "AAA6iS AAA6kF AAAktjN AAA6kO AAA6gf AAA6oU AAAu8d AAA6qC AAA6tD AAA6vK AAA61I AAAkt1D AAA62b AAAvgY AAA65B",
  "AAAkulH AAA66U AAAviO AAA67S AAA68f AAA69a AAA69b AAAku0N AAAknoL AAAku3a AAA7iO AAAkvlc AAA7lf AAA7mN AAA7jH",
  "AAA7oW AAA7pe AAA7rX AAA7qB AAA7rJ AAA7rY AAA7sF AAAkvoe AAA7pU AAA7xP AAA7zO AAAvpT AAA72L AAA72H AAAkv2R",
  "AAA7vZ AAA77O AAAkv6e AAAkv8O AAA7-G AAA8hZ AAA8ge AAA8gb AAAvsW AAA8iK AAA8jd AAA8jX AAA8lN AAAkhpF AAA8qF",
  "AAAkwzD AAA8sc AAAkw9L AAA8xI AAA8xV AAA8yQ AAAkxwI AAA80A AAA80V AAAkx5V AAAkygU AAA87a AAA88L AAAv1M AAA89F",
  "AAAv1Y AAAv1Y AAA9iH AAA9ic AAA9jR AAA9kF AAA9mK AAAv4b AAA9pE AAAkzhW AAA9pe AAAkzkS AAA9rQ AAAkosf AAA9wQ",
  "AAAkz9B AAAkz9Y AAAk0iE AAAv_c AAAwgI AAA93U AAAk0nT AAAk0nS AAAk0oZ AAAk0pT AAA94e AAA94f AAA94f AAA96K",
  "AAAwhZ AAA98L AAAwiG AAAwkW AAAk1gd AAA-iO AAA-kM AAA-mM AAAwnD AAAk1xG AAA-qW AAAk10a AAAk12F AAA-sP AAA-vL",
  "AAAwpP AAA-yA AAA-yK AAA-yP AAAk2rc AAAk21H AAAk21H AAA-3O AAAwwC AAAk29L AAA--G AAA--J AAAwxH AAAk3kA AAA_mS",
  "AAAw1A AAA_nI AAA_nD AAA_oA AAAk38G AAA_rD AAAw4B AAA_uH AAA_wC AAA_yF AAAw5U AAAk4xI AAAk4yH AAAw6Z AAAk42Z",
  "AAA_7a AAAk45e AAA_8V AAA__a AAAhggF AAAk5ma AAAk5pD AAAhgjA AAAk5tI AAAhgjQ AAAks6f AAAw-V AAAhglS AAAhgoD",
  "AAAxgL AAAhgpe AAA21V AAAk59H AAAk59V AAAks8T AAAks8c AAAhgwB AAAhgwE AAAhj8e AAAxjL AAAhg0R AAAhg0L AAAhg0d",
  "AAA01T AAAhg1R AAAhg1T AAAhg1d AAAhg3G AAAk65c AAAhg3F AAAhg4d AAAhg7D AAAhg9N AAAhg5D AAAhg9d AAAhg_H AAAhhiX",
  "AAAhg6T AAAhg-K AAAhg-M AAAhg-c AAAk7hW AAAk7rL AAAk7mV AAAxpL AAAhhnR AAAhhnT AAAhhoW AAAk8-K AAAhhrE AAAk75M",
  "AAAxqd AAAxrB AAAk79R AAAk8mS AAAxrL AAAhhyQ AAAhhyc AAAhhzH AAAhhzJ AAAhh1J AAAhh0I AAAhh4O AAAhh3C AAAhh7Z",
  "AAAhh5I AAAhh7L AAAhh8G AAAxuX AAAhh_B AAAhigB AAAxvZ AAAhijA AAAhijD AAAk9zH AAAhimX AAAhime AAAxxV AAAhina",
  "AAAtlb AAAk-lO AAAk-rG AAAx1e AAAx2H AAAhi1A AAAhi3N AAAhi8K AAAhjiV AAAk_lI AAAhjlL AAAhjmB AAAhjob AAAhjrX",
  "AAAk_5P AAAkigE AAAhjuL AAAhjtc AAAhjvQ AAAkime AAAhj2U AAAhj5Y AAAlhuS AAAlhvN AAAhkkU AAAhknR AAAhkoR",
  "AAAlh5O AAAhkob AAAhkxY AAAhk2X AAAhk2Y AAAhkzc AAAhk_Z AAAhlgV AAAli_a AAAhlsL AAAysV AAAhltX AAAljrX AAAyvG",
  "AAAhl2D AAA3tS AAAhl5D AAAlkqF AAAlkwa AAAyzO AAAyzW AAAhl_A AAAllgK AAAy1S AAAllkW AAAhmgL AAAhmgL AAAhmhJ",
  "AAAlltW AAAhmnC AAAy5T AAAhmpJ AAAhmtH AAAhmuC AAAhmve AAAy-O AAAlm5Q AAAhm4S AAAhniA AAAhnnd AAAzmO AAAznN",
  "AAAhnrH AAAlomO AAAznY AAAlooF AAAlowO AAAlo0R AAAhn1b AAAzqW AAAhn3Z AAAhn3e AAAhn4F AAAhn4P AAAhn4W AAAhn5b",
  "AAAlpwA"]

end FleetRouting.Unicode
