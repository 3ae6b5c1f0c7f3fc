import Landing.Unicode.CharSet

/-! The version of Unicode in which a character was added. -/
namespace Landing.Unicode.Age

/-- The versions, from the first on. -/
def versions : List String :=
  ["V1_1", "V2_0", "V2_1", "V3_0", "V3_1", "V3_2", "V4_0", "V4_1", "V5_0", "V5_1", "V5_2", "V6_0",
   "V6_1", "V6_2", "V6_3", "V7_0", "V8_0", "V9_0", "V10_0", "V11_0", "V12_0", "V12_1", "V13_0",
   "V14_0", "V15_0", "V15_1", "V16_0"]

/-- Versions of all characters as a table of runs; `Un` is none. -/
def ageText : List String := [
  "1f6V1_1 4V3_0 1eV1_1 8V3_0 1V3_2 1V4_0 12V3_0 3V4_0 bV4_1 eV5_0 59V1_1 5V3_0 2V4_0 2fV1_1 1V3_0",
  "aV1_1 5V3_0 11V4_0 46V1_1 9V3_0 1V3_2 8V4_0 5V4_1 3V4_0 2V1_1 1V3_0 dV3_2 4V5_1 2V1_1 2V5_1 2Un",
  "1V1_1 3V5_0 1V1_1 1V7_0 4Un 7V1_1 1Un 1V1_1 1Un 14V1_1 1Un 2cV1_1 1V5_1 7V1_1 1V3_0 2V3_2 1V1_1",
  "1V3_0 1V1_1 1V3_0 1V1_1 1V3_0 1V1_1 1V3_0 12V1_1 2V3_1 1V3_2 5V4_0 4V4_1 1V3_0 cV1_1 1V3_0",
  "42V1_1 1V3_0 cV1_1 1V3_0 29V1_1 1V5_1 2V3_0 2V3_2 4V3_0 35V1_1 2V3_2 2V1_1 2V3_2 2V1_1 2V3_2",
  "1V5_0 1cV1_1 2V3_0 8V1_1 2V4_1 2V1_1 6V5_0 10V3_2 4V5_0 10V5_1 2V5_2 2V6_0 8V7_0 1Un 26V1_1 2Un",
  "7V1_1 1V11_0 27V1_1 1V11_0 1V1_1 1V3_0 2Un 2V7_0 1V6_1 1Un 11V2_0 1V4_1 dV2_0 aV1_1 1V5_0 9V1_1",
  "1V2_0 3V4_1 8Un 1bV1_1 4Un 1V11_0 5V1_1 bUn 4V4_0 1V6_1 1V7_0 5V5_1 1V4_1 1V1_1 9V4_0 5V5_1",
  "1V1_1 1V6_3 1V14_0 1V4_1 1V1_1 1V6_0 1aV1_1 5V5_1 13V1_1 3V3_0 3V4_0 6V4_1 1V6_0 eV1_1 2V3_2",
  "48V1_1 2V3_0 5V1_1 1V3_0 fV1_1 1V3_0 1eV1_1 2V4_0 aV1_1 5V3_0 1V4_0 eV3_0 1Un 1eV3_0 3V4_0",
  "1bV3_0 2Un 3V4_0 1eV4_1 12V5_1 31V3_0 1V3_2 eUn 3bV5_0 2Un 3V11_0 2eV5_2 2Un fV5_2 1Un 1cV6_0",
  "2Un 1V6_0 1Un bV10_0 5Un 1fV14_0 1Un 2V14_0 5Un 1V16_0 8V14_0 1V6_1 1V7_0 bV6_1 6V7_0 2V8_0",
  "1V14_0 8V9_0 aV13_0 bV14_0 1V11_0 fV9_0 1V8_0 1bV6_1 1V7_0 1V5_2 3V1_1 1V4_0 35V1_1 2V6_0",
  "12V1_1 1V5_2 1V6_0 5V1_1 1V5_2 2V6_0 19V1_1 2V5_1 5V6_0 1V7_0 2V5_2 2V5_0 1V4_1 2V5_0 1V7_0",
  "3V1_1 1Un 8V1_1 2Un 2V1_1 2Un 16V1_1 1Un 7V1_1 1Un 1V1_1 3Un 4V1_1 2Un 1V1_1 1V4_0 7V1_1 2Un",
  "2V1_1 2Un 3V1_1 1V4_1 8Un 1V1_1 4Un 2V1_1 1Un 5V1_1 2Un 15V1_1 1V5_2 2V10_0 1V11_0 2Un 1V4_0",
  "1V1_1 1V4_0 1Un 6V1_1 4Un 2V1_1 2Un 16V1_1 1Un 7V1_1 1Un 2V1_1 1Un 2V1_1 1Un 2V1_1 2Un 1V1_1",
  "1Un 5V1_1 4Un 2V1_1 2Un 3V1_1 3Un 1V5_1 7Un 4V1_1 1Un 1V1_1 7Un fV1_1 1V5_1 1V11_0 aUn 3V1_1",
  "1Un 7V1_1 1V4_0 1V1_1 1Un 3V1_1 1Un 16V1_1 1Un 7V1_1 1Un 2V1_1 1Un 5V1_1 2Un aV1_1 1Un 3V1_1",
  "1Un 3V1_1 2Un 1V1_1 fUn 1V1_1 3V4_0 2Un aV1_1 1V6_1 1V4_0 7Un 1V8_0 6V10_0 1Un 3V1_1 1Un 8V1_1",
  "2Un 2V1_1 2Un 16V1_1 1Un 7V1_1 1Un 2V1_1 1Un 1V4_0 4V1_1 2Un 8V1_1 1V5_1 2Un 2V1_1 2Un 3V1_1",
  "7Un 1V13_0 2V1_1 4Un 2V1_1 1Un 3V1_1 2V5_1 2Un bV1_1 1V4_0 6V6_0 aUn 2V1_1 1Un 6V1_1 3Un 3V1_1",
  "1Un 4V1_1 3Un 2V1_1 1Un 1V1_1 1Un 2V1_1 3Un 2V1_1 3Un 3V1_1 3Un 8V1_1 1V4_1 3V1_1 4Un 5V1_1 3Un",
  "3V1_1 1Un 4V1_1 2Un 1V5_1 6Un 1V1_1 eUn 1V4_1 cV1_1 8V4_0 5Un 1V7_0 3V1_1 1V11_0 8V1_1 1Un",
  "3V1_1 1Un 17V1_1 1Un aV1_1 1V7_0 5V1_1 2Un 1V14_0 1V5_1 7V1_1 1Un 3V1_1 1Un 4V1_1 7Un 2V1_1 1Un",
  "2V5_1 1V8_0 2Un 1V14_0 2Un 2V1_1 2V5_1 2Un aV1_1 7Un 1V12_0 8V5_1 1V9_0 1V7_0 2V1_1 1V11_0",
  "8V1_1 1Un 3V1_1 1Un 17V1_1 1Un aV1_1 1Un 5V1_1 2Un 2V4_0 7V1_1 1Un 3V1_1 1Un 4V1_1 7Un 2V1_1",
  "6Un 1V14_0 1V1_1 1Un 2V1_1 2V5_0 2Un aV1_1 1Un 2V5_0 1V15_0 cUn 1V10_0 1V7_0 2V1_1 1V13_0 8V1_1",
  "1Un 3V1_1 1Un 17V1_1 1V6_0 10V1_1 1V6_0 2V10_0 1V5_1 6V1_1 1V5_1 1Un 3V1_1 1Un 4V1_1 1V6_0",
  "1V9_0 4Un 3V9_0 1V1_1 7V9_0 1V8_0 2V1_1 2V5_1 2Un aV1_1 6V5_1 3V9_0 7V5_1 1Un 1V13_0 2V3_0 1Un",
  "12V3_0 3Un 18V3_0 1Un 9V3_0 1Un 1V3_0 2Un 7V3_0 3Un 1V3_0 4Un 6V3_0 1Un 1V3_0 1Un 8V3_0 6Un",
  "aV7_0 2Un 3V3_0 cUn 3aV1_1 4Un 1dV1_1 25Un 2V1_1 1Un 1V1_1 1Un 1V12_0 2V1_1 1V12_0 1V1_1 1Un",
  "1V12_0 1V1_1 6V12_0 4V1_1 1V12_0 7V1_1 1V12_0 3V1_1 1Un 1V1_1 1Un 1V1_1 2V12_0 2V1_1 1V12_0",
  "dV1_1 1V12_0 3V1_1 2Un 5V1_1 1Un 1V1_1 1Un 6V1_1 1V15_0 1Un aV1_1 2Un 2V1_1 2V6_1 20Un 48V2_0",
  "1Un 21V2_0 1V3_0 2V5_1 4Un 1bV2_0 4V6_0 6V2_0 1V3_0 1V2_0 1Un 15V2_0 3V3_0 7V2_0 1V3_0 1V2_0",
  "3V3_0 1Un fV3_0 1Un 1V5_1 1V3_0 2V4_1 3V5_1 4V5_2 2V6_0 25Un 22V3_0 1V5_1 5V3_0 1V5_1 2V3_0",
  "1V5_1 7V3_0 3V5_1 4V3_0 6V5_1 1aV3_0 40V5_1 4V5_2 2V5_1 26V1_1 1Un 1V6_1 5Un 1V6_1 2Un 27V1_1",
  "2V3_2 2V4_1 1V1_1 1V4_1 3V6_1 5aV1_1 5V5_2 44V1_1 5V5_2 52V1_1 6V5_2 7V3_0 1V4_1 3fV3_0 1V4_1",
  "1V3_0 1Un 4V3_0 2Un 7V3_0 1Un 1V3_0 1Un 4V3_0 2Un 27V3_0 1V4_1 1V3_0 1Un 4V3_0 2Un 1fV3_0 1V4_1",
  "1V3_0 1Un 4V3_0 2Un 7V3_0 1Un 1V3_0 1Un 4V3_0 2Un 7V3_0 1V4_1 7V3_0 1Un 17V3_0 1V4_1 1fV3_0",
  "1V4_1 1V3_0 1Un 4V3_0 2Un 7V3_0 1V4_1 27V3_0 1V4_1 13V3_0 2Un 2V6_0 2V4_1 1cV3_0 3Un 1aV4_1 6Un",
  "55V3_0 1V8_0 2Un 6V8_0 2Un 1V5_2 276V3_0 9V5_2 1dV3_0 3Un 51V3_0 8V7_0 7Un dV3_2 1V14_0 7V3_2",
  "1V14_0 9Un 1V14_0 17V3_2 9Un 14V3_2 cUn dV3_2 1Un 3V3_2 1Un 2V3_2 cUn 5dV3_0 1V4_0 2Un aV3_0",
  "6Un aV4_0 6Un fV3_0 1V14_0 aV3_0 6Un 58V3_0 1V11_0 7Un 2aV3_0 1V5_1 5Un 46V5_2 aUn 1dV4_0 2V7_0",
  "1Un cV4_0 4Un cV4_0 4Un 1V4_0 3Un 2aV4_0 2Un 5V4_0 bUn 2aV4_1 2V5_2 4Un 1aV4_1 6Un aV4_1 1V5_2",
  "3Un 2V4_1 20V4_0 1cV4_1 2Un 2V4_1 3fV5_2 1Un 1dV5_2 2Un bV5_2 6Un aV5_2 6Un eV5_2 2Un fV7_0",
  "2V13_0 eV14_0 31Un 4cV5_0 1V14_0 1Un 2V16_0 2dV5_0 2V14_0 1V16_0 2bV5_1 3V6_1 cV5_1 6V6_1",
  "34V6_0 8Un 4V6_0 38V5_1 3Un fV5_1 3Un 33V5_1 9V9_0 2V16_0 5Un 2bV11_0 2Un 3V11_0 8V6_1 8Un",
  "23V5_2 4V6_1 1V10_0 2V7_0 1V12_0 5Un 6cV4_0 58V4_1 7V5_0 1cV5_1 fV7_0 4V10_0 1V14_0 1V9_0 1V6_0",
  "1V5_2 2V5_0 9bV1_1 1V2_0 4V5_1 5aV1_1 6V5_1 16V1_1 2Un 6V1_1 2Un 26V1_1 2Un 6V1_1 2Un 8V1_1 1Un",
  "1V1_1 1Un 1V1_1 1Un 1V1_1 1Un 1fV1_1 2Un 35V1_1 1Un fV1_1 1Un eV1_1 2Un 6V1_1 1Un 13V1_1 2Un",
  "3V1_1 1Un 9V1_1 1Un 2fV1_1 1V3_0 17V1_1 1V3_2 6V3_0 5V3_2 2V4_0 2V4_1 1V3_2 7V4_1 5V3_2 1V5_1",
  "1Un 4V6_3 7V1_1 1V3_2 2Un 1bV1_1 1Un 5V4_1 8V6_0 3Un bV1_1 1V2_0 1V2_1 3V3_0 2V3_2 4V4_1 3V5_2",
  "1V6_0 1V6_2 3V7_0 1V8_0 1V10_0 1V14_0 fUn 12V1_1 2V3_0 7V3_2 1V4_1 4V5_0 1V5_1 fUn 39V1_1 2V3_0",
  "1V4_0 1V4_1 fV3_2 1V4_1 2V5_0 1V5_1 3V5_2 30V1_1 1V3_0 1V5_0 4V5_1 1V5_2 2V8_0 4Un 5bV1_1 9V3_0",
  "cV3_2 f2V1_1 eV3_2 1V1_1 1V3_0 79V1_1 1V3_0 1V3_2 1eV3_0 34V3_2 2V4_0 bV4_1 cV5_0 1V5_2 bV6_0",
  "7V7_0 4V9_0 1V10_0 25V1_1 2V3_0 3V16_0 16Un bV1_1 15Un 8bV1_1 14V3_2 1V4_0 96V1_1 aV3_2 50V1_1",
  "8V3_0 8V3_2 14V1_1 2V4_0 2V3_2 1V4_1 1V3_0 56V1_1 2V3_0 cV3_2 2V4_1 aV3_2 8V4_0 bV4_1 1V5_1",
  "2V5_2 2V4_0 10V4_1 1V5_0 aV5_1 3V5_2 4V5_1 aV5_2 1V6_0 13V5_2 1V6_0 1V5_2 4V6_0 18V5_2 1V7_0",
  "4V1_1 1V6_0 4V1_1 2V6_0 1cV1_1 1V6_0 23V1_1 1V6_0 1V1_1 1V6_0 4V1_1 3V6_0 1V1_1 1V5_2 7V1_1",
  "2V6_0 7V1_1 eV3_2 1fV1_1 3V6_0 18V1_1 1V6_0 eV1_1 1V6_0 7V4_1 4V5_0 1V6_1 1V5_1 1V6_1 2V6_0",
  "1cV3_2 4V5_1 10V3_2 100V3_0 200V3_2 eV4_0 6V4_1 7V5_0 5V5_1 4V5_0 29V5_1 3V7_0 5V5_1 5V5_2",
  "1aV7_0 2Un 20V7_0 1Un 1V13_0 22V7_0 3V11_0 cV7_0 1V12_0 8V7_0 1V10_0 19V11_0 4V8_0 fV11_0",
  "1V12_0 2fV4_1 1V14_0 2fV4_1 1V14_0 dV5_0 3V5_1 1V5_2 3V5_1 4V5_0 6V5_1 2V5_2 6bV4_1 7V5_2 2V6_1",
  "5Un 2dV4_1 1Un 1V6_1 5Un 1V6_1 2Un 36V4_1 2V6_1 7Un 1V4_1 1V6_0 eUn 1V6_0 17V4_1 9Un 7V4_1 1Un",
  "7V4_1 1Un 7V4_1 1Un 7V4_1 1Un 7V4_1 1Un 7V4_1 1Un 7V4_1 1Un 7V4_1 1Un 20V5_1 18V4_1 4V5_1 2V4_1",
  "13V5_1 1V5_2 aV6_1 7V7_0 2V9_0 5V10_0 5V11_0 1V12_0 3V13_0 bV14_0 22Un 1aV3_0 1Un 59V3_0 cUn",
  "d6V3_0 1aUn cV3_0 4V15_1 38V1_1 3V3_0 3V3_2 1V3_0 1V1_1 1Un 54V1_1 2V3_2 2Un 6V1_1 2V3_2 5eV1_1",
  "1V3_2 5Un 28V1_1 1V5_1 1V10_0 1V11_0 1Un 5eV1_1 1Un 10V1_1 18V3_0 3V6_0 5V13_0 10V4_1 14V5_1",
  "2V16_0 9Un 1V15_1 10V3_2 1dV1_1 2V4_0 1Un 24V1_1 cV5_2 1V4_0 fV3_2 1cV1_1 2V4_0 1V4_1 32V1_1",
  "fV3_2 cV1_1 4V4_0 2fV1_1 1V12_1 77V1_1 4V4_0 63V1_1 2V4_0 1fV1_1 1V4_0 19b6V3_0 aV13_0 40V4_0",
  "51a6V1_1 16V4_1 8V5_1 8V5_2 1V6_1 9V8_0 15V10_0 5V11_0 dV13_0 3V14_0 48dV3_0 3Un 12V3_0 2V3_2",
  "10V3_0 1V3_2 cV3_0 1V3_2 3V3_0 1V3_2 1V3_0 9Un 30V5_2 12cV5_1 14Un 20V5_1 2V6_0 12V5_1 8V6_1",
  "1cV5_1 6V7_0 1V8_0 1V6_1 58V5_2 8Un 17V4_1 4V5_0 5V5_1 2V5_0 6bV5_1 2V6_0 1V8_0 2V6_0 2V6_1",
  "cV7_0 aV6_0 1V6_1 3V7_0 1V9_0 1V11_0 2V7_0 6V8_0 2V11_0 6V12_0 2V14_0 5V12_0 4V13_0 3V16_0 2Un",
  "2V14_0 1Un 1V14_0 1Un 5V14_0 3V16_0 15Un 3V14_0 2V13_0 1V7_0 2V6_1 1V6_0 5V5_1 2cV4_1 1V13_0",
  "3Un aV5_2 6Un 38V5_0 8Un 45V5_1 1V9_0 8Un cV5_1 6Un 1cV5_2 2V8_0 2V11_0 54V5_1 bUn 1V5_1 1dV5_2",
  "3Un 4eV5_2 1Un bV5_2 4Un 2V5_2 1fV7_0 1Un 37V5_1 9Un eV5_1 2Un aV5_1 2Un 4V5_1 1cV5_2 4V7_0",
  "43V5_2 18Un 5V5_2 17V6_1 aUn 6V6_0 2Un 6V6_0 2Un 6V6_0 9Un 7V6_0 1Un 7V6_0 1Un 30V7_0 4V8_0",
  "2V7_0 2V12_0 4V13_0 4Un 50V8_0 2eV5_2 2Un aV5_2 6Un 2ba4V2_0 cUn 17V5_2 4Un 31V5_2 4Un 800V2_0",
  "1a2eV1_1 2V6_1 3bV3_2 3V5_2 2Un 6aV4_1 26Un 7V1_1 cUn 5V1_1 5Un 1V3_0 19V1_1 1Un 5V1_1 1Un",
  "1V1_1 1Un 2V1_1 1Un 2V1_1 1Un 6cV1_1 10V6_0 1V14_0 10Un 16dV1_1 10V14_0 40V1_1 2Un 36V1_1 7Un",
  "1V14_0 20V3_1 cV1_1 1V3_2 1V4_0 2V14_0 10V3_2 aV4_1 6Un 4V1_1 3V5_1 7V7_0 2V8_0 15V1_1 2V3_2",
  "2V4_0 aV1_1 1Un 13V1_1 1Un 4V1_1 4Un 3V1_1 1V3_2 1V1_1 1Un 87V1_1 2Un 1V1_1 1Un 5eV1_1 2V3_2",
  "5eV1_1 3Un 6V1_1 2Un 6V1_1 2Un 6V1_1 2Un 3V1_1 3Un 7V1_1 1Un 7V1_1 aUn 3V3_0 1V2_1 3V1_1 cV4_0",
  "1Un 1aV4_0 1Un 13V4_0 1Un 2V4_0 1Un fV4_0 2Un eV4_0 22Un 7bV4_0 5Un 3V4_0 4Un 2dV4_0 3Un 9V4_0",
  "4bV4_1 2V7_0 2V9_0 1Un cV5_1 1V13_0 3Un 1V7_0 2fUn 2eV5_1 82Un 1dV5_1 3Un 31V5_1 fUn 1cV7_0 4Un",
  "1fV3_1 1V7_0 4V3_1 9Un 3V10_0 1bV3_1 5Un 2bV7_0 5Un 1eV4_0 1Un 1V4_0 24V4_1 4Un eV4_1 2aUn",
  "26V3_1 2V4_0 26V3_1 50V4_0 2Un aV4_0 6Un 24V9_0 4Un 24V9_0 4Un 28V7_0 8Un 34V7_0 bUn 1V7_0",
  "bV14_0 1Un fV14_0 1Un 7V14_0 1Un 2V14_0 1Un bV14_0 1Un fV14_0 1Un 7V14_0 1Un 2V14_0 3Un 34V16_0",
  "cUn 137V7_0 9Un 16V7_0 aUn 8V7_0 18Un 6V14_0 1Un 2aV14_0 1Un 9V14_0 45Un 6V4_0 2Un 1V4_0 1Un",
  "2cV4_0 1Un 2V4_0 3Un 1V4_0 2Un 1V4_0 16V5_2 1Un 9V5_2 3fV7_0 8Un 9V7_0 30Un 13V8_0 1Un 2V8_0",
  "5Un 5V8_0 1aV5_0 2V5_2 3Un 1V5_0 1aV5_1 5Un 1V5_1 40Un 38V6_1 4Un 2V8_0 2V6_1 10V8_0 2Un 2eV8_0",
  "4V4_1 1Un 2V4_1 5Un 8V4_1 1Un 3V4_1 1Un 1bV4_1 2V11_0 2Un 3V4_1 4Un 9V4_1 1V11_0 7Un 9V4_1 7Un",
  "20V5_2 20V7_0 20Un 27V7_0 4Un cV7_0 9Un 36V5_2 3Un 1dV5_2 2Un 1bV5_2 5Un 8V5_2 12V7_0 7Un 4V7_0",
  "cUn 7V7_0 50Un 49V5_2 37Un 33V8_0 dUn 33V8_0 7Un 6V8_0 28V11_0 8Un aV11_0 6Un 26V16_0 3Un",
  "1dV16_0 8Un 2V16_0 d0Un 1fV5_2 1Un 2aV13_0 1Un 3V13_0 2Un 2V13_0 10Un 3V16_0 37Un 1V16_0 3V15_0",
  "28V11_0 8Un 2aV11_0 16Un 1aV14_0 26Un 1cV13_0 14Un 17V12_0 9Un 4eV6_0 4Un 1eV6_0 6V14_0 9Un",
  "1V7_0 42V5_2 1V14_0 aUn 1V11_0 2Un 19V6_1 7Un aV6_1 6Un 35V6_1 1Un eV6_1 3V11_0 1V13_0 8Un",
  "27V7_0 9Un 49V6_1 4V8_0 1V7_0 2V13_0 aV6_1 1V7_0 5V8_0 1Un 14V7_0 bUn 12V7_0 1Un 2bV7_0 1V9_0",
  "3V15_0 3eUn 7V8_0 1Un 1V8_0 1Un 4V8_0 1Un fV8_0 1Un bV8_0 6Un 3bV7_0 5Un aV7_0 6Un 1V8_0 3V7_0",
  "1Un 8V7_0 2Un 2V7_0 2Un 16V7_0 1Un 7V7_0 1Un 2V7_0 1Un 5V7_0 1Un 1V11_0 9V7_0 2Un 2V7_0 2Un",
  "3V7_0 2Un 1V8_0 6Un 1V7_0 5Un 7V7_0 2Un 7V7_0 3Un 5V7_0 bUn aV16_0 1Un 1V16_0 2Un 1V16_0 1Un",
  "26V16_0 1Un aV16_0 1Un 1V16_0 2Un 1V16_0 1Un 4V16_0 1Un aV16_0 1Un 2V16_0 8Un 2V16_0 1dUn",
  "5aV9_0 1V13_0 1V9_0 1Un 1V9_0 1V11_0 1V12_0 2V13_0 1eUn 48V7_0 8Un aV7_0 a6Un 36V7_0 2Un 12V7_0",
  "14V8_0 22Un 45V7_0 bUn aV7_0 6Un dV9_0 13Un 38V6_1 1V12_0 1V14_0 6Un aV6_1 6Un 14V16_0 1cUn",
  "1aV8_0 1V11_0 2Un fV8_0 4Un 10V8_0 7V14_0 b9Un 3cV11_0 64Un 53V7_0 cUn 1V7_0 7V13_0 2Un 1V13_0",
  "2Un 8V13_0 1Un 2V13_0 1Un 1eV13_0 1Un 2V13_0 2Un cV13_0 9Un aV13_0 46Un 8V12_0 2Un 2eV12_0 2Un",
  "bV12_0 1bUn 48V10_0 8Un 34V10_0 2V12_0 17V10_0 1V11_0 5V10_0 dUn 10V14_0 39V7_0 7Un aV15_0 b6Un",
  "22V16_0 eUn aV16_0 6Un 9V9_0 1Un 2dV9_0 1Un eV9_0 aUn 1dV9_0 3Un 20V9_0 2Un 16V9_0 1Un eV9_0",
  "49Un 7V10_0 1Un 2V10_0 1Un 2cV10_0 3Un 1V10_0 1Un 2V10_0 1Un 9V10_0 8Un aV10_0 6Un 6V11_0 1Un",
  "2V11_0 1Un 25V11_0 1Un 2V11_0 1Un 6V11_0 7Un aV11_0 136Un 19V11_0 7Un 11V15_0 1Un 29V15_0 3Un",
  "1cV15_0 1V16_0 55Un 1V13_0 fUn 32V12_0 dUn 1V12_0 36fV5_0 2aV7_0 1V8_0 66Un 63V5_0 cV7_0 1Un",
  "4V5_0 1V7_0 bUn c4V8_0 a4cUn 63V14_0 dUn 42fV5_2 1V15_0 9V12_0 1dV15_0 aUn f9bV16_0 5Un 247V8_0",
  "1ab9Un 3aV16_0 6c6Un 239V6_0 7Un 1fV7_0 1Un aV7_0 4Un 2V7_0 4fV14_0 1Un aV14_0 6Un 1eV7_0 2Un",
  "6V7_0 aUn 46V7_0 aUn aV7_0 1Un 7V7_0 1Un 15V7_0 5Un 13V7_0 1b0Un 3aV16_0 c6Un 5bV11_0 65Un",
  "45V6_1 6V12_0 4Un 1V12_0 2fV6_1 9V12_0 7Un 11V6_1 40Un 1V9_0 1V10_0 2V12_0 1V13_0 bUn 2V13_0",
  "eUn 17edV9_0 5V11_0 6V12_0 8Un 2f3V9_0 1e3V13_0 29Un 1V16_0 9V13_0 22e7Un 4V14_0 1Un 7V14_0 1Un",
  "2V14_0 1Un 2V6_0 11dV10_0 4V14_0 fUn 1V15_0 1dUn 3V12_0 2Un 1V15_0 eUn 4V12_0 8Un 18cV10_0",
  "904Un 6bV7_0 5Un dV7_0 3Un 9V7_0 7Un aV7_0 2Un 8V7_0 f5cUn faV16_0 6Un 1b4V16_0 4cUn 2eV14_0",
  "2Un 17V14_0 9Un 74V14_0 3cUn f6V3_1 aUn 27V3_1 2Un 1V5_1 b4V3_1 bV8_0 2V14_0 15Un 46V4_1 7aUn",
  "14V15_0 cUn 14V11_0 cUn 57V4_0 9Un 12V5_0 7V11_0 87Un 55V3_1 1Un 47V3_1 1Un 2V3_1 2Un 1V3_1 2Un",
  "2V3_1 2Un 4V3_1 1Un cV3_1 1Un 1V3_1 1Un 4V3_1 1V4_0 2V3_1 1Un 41V3_1 1Un 4V3_1 2Un 8V3_1 1Un",
  "7V3_1 1Un 1cV3_1 1Un 4V3_1 1Un 5V3_1 1Un 1V3_1 3Un 7V3_1 1Un 152V3_1 2V4_1 2Un 122V3_1 2V5_0",
  "2Un 32V3_1 28cV8_0 fUn 5V8_0 1Un fV8_0 450Un 1fV14_0 6Un 6V15_0 d5Un 7V9_0 1Un 11V9_0 2Un 7V9_0",
  "1Un 2V9_0 1Un 5V9_0 5Un 3eV15_0 21Un 1V15_0 70Un 2dV12_0 3Un eV12_0 2Un aV12_0 4Un 2V12_0 140Un",
  "1fV14_0 11Un 3aV12_0 5Un 1V12_0 1d0Un 2aV15_0 d6Un 2bV16_0 4Un 1V16_0 1e0Un 7V14_0 1Un 4V14_0",
  "1Un 2V14_0 1Un fV14_0 1Un c5V7_0 2Un 10V7_0 29Un 4bV9_0 1V12_0 4Un aV9_0 4Un 2V9_0 311Un",
  "44V11_0 4cUn 3dV12_0 c2Un 4V6_1 1Un 1bV6_1 1Un 2V6_1 1Un 1V6_1 2Un 1V6_1 1Un aV6_1 1Un 4V6_1",
  "1Un 1V6_1 1Un 1V6_1 6Un 1V6_1 4Un 1V6_1 1Un 1V6_1 1Un 1V6_1 1Un 3V6_1 1Un 2V6_1 1Un 1V6_1 2Un",
  "1V6_1 1Un 1V6_1 1Un 1V6_1 1Un 1V6_1 1Un 1V6_1 1Un 2V6_1 1Un 1V6_1 2Un 4V6_1 1Un 7V6_1 1Un 4V6_1",
  "1Un 4V6_1 1Un 1V6_1 1Un aV6_1 1Un 11V6_1 5Un 3V6_1 1Un 5V6_1 1Un 11V6_1 34Un 2V6_1 10eUn 2cV5_1",
  "4Un 64V5_1 cUn fV6_0 2Un eV6_0 1V7_0 1Un fV6_0 1Un fV6_0 16V7_0 aUn bV5_2 2V7_0 3V13_0 1fV5_2",
  "1V11_0 1V6_0 1V5_2 bV6_0 1V5_2 1V6_0 1V5_2 2V6_0 1V5_2 3V6_0 1V5_2 3V6_0 5V5_2 8V6_0 1V5_2",
  "7V6_0 1V5_2 aV6_0 2V6_1 1V12_0 3V13_0 9V6_0 1V5_2 1V6_0 2V5_2 2V6_0 1V5_2 aV6_0 4V5_2 2V6_0",
  "1V5_2 aV6_0 12V9_0 1V13_0 38Un 1aV6_0 1V5_2 2V6_0 dUn 22V5_2 9V6_0 1V9_0 4Un 9V5_2 7Un 2V6_0",
  "eUn 6V10_0 9aUn 21V6_0 cV7_0 3V8_0 6V6_0 1V7_0 46V6_0 1V7_0 2V8_0 14V6_0 cV7_0 25V6_0 1V7_0",
  "5V6_0 4V7_0 5V8_0 cV7_0 11V6_0 7V7_0 8V8_0 3fV6_0 1V7_0 1V6_0 1V7_0 b6V6_0 1V7_0 4V6_0 2V7_0",
  "1V8_0 3eV6_0 2V7_0 4V6_1 7V7_0 5V8_0 18V6_0 12V7_0 1V9_0 29V7_0 1V9_0 56V7_0 5V6_0 1V6_1 10V6_0",
  "1V6_1 3V6_0 1V6_1 1V6_0 1V6_1 1V6_0 1V6_1 1V6_0 1V6_1 3V6_0 1V6_1 6V6_0 2V6_1 4V6_0 1V6_1 1V6_0",
  "2V6_1 4V6_0 1V6_1 cV6_0 2V7_0 2V8_0 bV6_0 30V7_0 46V6_0 aV7_0 1V8_0 2V9_0 2V10_0 1V12_0 2V13_0",
  "4Un 1V15_0 3V14_0 dV7_0 3Un 4V7_0 3V9_0 2V10_0 1V11_0 1V12_0 2V13_0 3Un 74V6_0 3V15_0 4Un",
  "5V15_0 55V7_0 4V11_0 1V15_0 6Un cV12_0 4Un 1V14_0 fUn cV7_0 4Un 38V7_0 8Un aV7_0 6Un 28V7_0 8Un",
  "1eV7_0 2Un 2V13_0 aV16_0 4Un 2V16_0 3eUn cV10_0 1V13_0 3V12_0 9V8_0 6V9_0 1V10_0 8V9_0 8V10_0",
  "1V9_0 2V10_0 cV9_0 1V12_0 cV9_0 1V10_0 3V11_0 fV9_0 dV10_0 5V11_0 1V12_0 1V13_0 4V11_0 2V13_0",
  "1V14_0 1V11_0 1V12_0 4V11_0 5V8_0 dV9_0 6V10_0 bV11_0 2V13_0 6V12_0 3V13_0 2V12_0 aV11_0 6V12_0",
  "1V8_0 2V11_0 8V12_0 1V13_0 1V14_0 3V12_0 17V10_0 19V11_0 54V12_0 cUn eV11_0 2Un 4V12_0 1V13_0",
  "3V15_0 3V12_0 2V14_0 3Un 3V12_0 4V13_0 2V15_0 1V16_0 5Un 1V16_0 6V12_0 13V13_0 4V14_0 3V15_0",
  "7V13_0 4V14_0 3V15_0 1V16_0 1V15_0 3V13_0 3V14_0 1V16_0 7Un 2V15_0 7V13_0 3V14_0 2V15_0 1V16_0",
  "2Un 1V16_0 8V14_0 1V15_0 1V16_0 6Un 7V14_0 2V15_0 7Un 93V13_0 1Un 37V13_0 25V16_0 aV13_0 404Un",
  "2V2_0 a6d7V3_1 7V13_0 2V14_0 20Un 1035V5_2 4V14_0 1V15_0 6Un deV6_0 2Un 1682V8_0 eUn 1d31V10_0",
  "fUn 26eV15_1 9a2Un 21eV3_1 5e0Un 2V2_0 134bV13_0 5Un 1060V15_0 dc4eUn 2V2_0 fffeUn 2V2_0 fffeUn",
  "2V2_0 fffeUn 2V2_0 fffeUn 2V2_0 fffeUn 2V2_0 fffeUn 2V2_0 fffeUn 2V2_0 fffeUn 2V2_0 fffeUn",
  "2V2_0 fffeUn 2V2_0 1Un 1V3_1 1eUn 60V3_1 80Un f0V4_0 fe0eUn 20002V2_0"]

/-- The characters that a version knows: those added up to it. -/
def upTo (version : String) : CharSet :=
  let known := versions.take (versions.idxOf version + 1)
  .ofRanges (rangesWhere known.contains (runsOf ageText))

end Landing.Unicode.Age
