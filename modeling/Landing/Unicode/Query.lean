import Landing.Unicode.Age
import Landing.Unicode.Break

/-! Sets of characters by the names of properties and of their values. -/
namespace Landing.Unicode

/-- The form in which names are compared: without an `is` in front, blanks, hyphens, underscores
and all that is not ASCII, and in lower case. -/
def looseName (name : List Char) : String :=
  let body := match name with
    | i :: s :: rest => if i.toLower == 'i' && s.toLower == 's' then rest else name
    | _ => name
  let kept := body.filter fun c => !(c == ' ' || c == '-' || c == '_') && c.toNat < 0x80
  let loose := String.ofList (kept.map Char.toLower)
  if loose == "c" && body.length < name.length then "isc" else loose

/-- The value under a name, and under its loose form. -/
def lookupLoose {α : Type} (table : List (String × α)) (loose : String) : Option α :=
  (table.find? fun e => looseName e.1.toList == loose).map (·.2)

/-- Other names of properties. -/
def propertyNames : List (String × String) :=
  [("AHex", "ASCII_Hex_Digit"), ("Alpha", "Alphabetic"), ("Bidi_C", "Bidi_Control"),
   ("Bidi_M", "Bidi_Mirrored"), ("CI", "Case_Ignorable"), ("CWCF", "Changes_When_Casefolded"),
   ("CWCM", "Changes_When_Casemapped"), ("CWL", "Changes_When_Lowercased"),
   ("CWT", "Changes_When_Titlecased"), ("CWU", "Changes_When_Uppercased"),
   ("DI", "Default_Ignorable_Code_Point"), ("Dep", "Deprecated"), ("Dia", "Diacritic"),
   ("EBase", "Emoji_Modifier_Base"), ("EComp", "Emoji_Component"), ("EMod", "Emoji_Modifier"),
   ("EPres", "Emoji_Presentation"), ("Ext", "Extender"), ("ExtPict", "Extended_Pictographic"),
   ("Gr_Base", "Grapheme_Base"), ("Gr_Ext", "Grapheme_Extend"), ("Gr_Link", "Grapheme_Link"),
   ("Hex", "Hex_Digit"), ("IDC", "ID_Continue"), ("IDS", "ID_Start"),
   ("IDSB", "IDS_Binary_Operator"), ("IDST", "IDS_Trinary_Operator"),
   ("IDSU", "IDS_Unary_Operator"), ("Ideo", "Ideographic"), ("Join_C", "Join_Control"),
   ("LOE", "Logical_Order_Exception"), ("Lower", "Lowercase"),
   ("MCM", "Modifier_Combining_Mark"), ("NChar", "Noncharacter_Code_Point"),
   ("OAlpha", "Other_Alphabetic"), ("ODI", "Other_Default_Ignorable_Code_Point"),
   ("OGr_Ext", "Other_Grapheme_Extend"), ("OIDC", "Other_ID_Continue"),
   ("OIDS", "Other_ID_Start"), ("OLower", "Other_Lowercase"), ("OMath", "Other_Math"),
   ("OUpper", "Other_Uppercase"), ("Pat_Syn", "Pattern_Syntax"),
   ("Pat_WS", "Pattern_White_Space"), ("PCM", "Prepended_Concatenation_Mark"),
   ("QMark", "Quotation_Mark"), ("RI", "Regional_Indicator"), ("SD", "Soft_Dotted"),
   ("Sentence_Terminal", "Sentence_Terminal"), ("STerm", "Sentence_Terminal"),
   ("Term", "Terminal_Punctuation"), ("UIdeo", "Unified_Ideograph"), ("Upper", "Uppercase"),
   ("VS", "Variation_Selector"), ("WSpace", "White_Space"), ("space", "White_Space"),
   ("XIDC", "XID_Continue"), ("XIDS", "XID_Start")]

/-- Categories, alone and in groups, under all their names. -/
def categoryNames : List (List String × (Category → Bool)) :=
  [(["C", "Other"], (·.isOther)), (["Cc", "Control", "cntrl"], (· == .Cc)),
   (["Cf", "Format"], (· == .Cf)), (["Cn", "Unassigned"], (· == .Cn)),
   (["Co", "Private_Use"], (· == .Co)), (["L", "Letter"], (·.isLetter)),
   (["LC", "Cased_Letter"], fun g => g == .Lu || g == .Ll || g == .Lt),
   (["Ll", "Lowercase_Letter"], (· == .Ll)), (["Lm", "Modifier_Letter"], (· == .Lm)),
   (["Lo", "Other_Letter"], (· == .Lo)), (["Lt", "Titlecase_Letter"], (· == .Lt)),
   (["Lu", "Uppercase_Letter"], (· == .Lu)), (["M", "Mark", "Combining_Mark"], (·.isMark)),
   (["Mc", "Spacing_Mark"], (· == .Mc)), (["Me", "Enclosing_Mark"], (· == .Me)),
   (["Mn", "Nonspacing_Mark"], (· == .Mn)), (["N", "Number"], (·.isNumber)),
   (["Nd", "Decimal_Number", "digit"], (· == .Nd)), (["Nl", "Letter_Number"], (· == .Nl)),
   (["No", "Other_Number"], (· == .No)), (["P", "Punctuation", "punct"], (·.isPunctuation)),
   (["Pc", "Connector_Punctuation"], (· == .Pc)), (["Pd", "Dash_Punctuation"], (· == .Pd)),
   (["Pe", "Close_Punctuation"], (· == .Pe)), (["Pf", "Final_Punctuation"], (· == .Pf)),
   (["Pi", "Initial_Punctuation"], (· == .Pi)), (["Po", "Other_Punctuation"], (· == .Po)),
   (["Ps", "Open_Punctuation"], (· == .Ps)), (["S", "Symbol"], (·.isSymbol)),
   (["Sc", "Currency_Symbol"], (· == .Sc)), (["Sk", "Modifier_Symbol"], (· == .Sk)),
   (["Sm", "Math_Symbol"], (· == .Sm)), (["So", "Other_Symbol"], (· == .So)),
   (["Z", "Separator"], (·.isSeparator)), (["Zl", "Line_Separator"], (· == .Zl)),
   (["Zp", "Paragraph_Separator"], (· == .Zp)), (["Zs", "Space_Separator"], (· == .Zs)),
   (["Assigned"], (· != .Cn))]

/-- Other names of the classes of borders. -/
def breakNames : List (String × List (String × String)) :=
  [("Grapheme_Cluster_Break",
    [("CN", "Control"), ("EX", "Extend"), ("PP", "Prepend"), ("RI", "Regional_Indicator"),
     ("SM", "SpacingMark")]),
   ("Word_Break",
    [("LE", "ALetter"), ("DQ", "Double_Quote"), ("EX", "ExtendNumLet"), ("FO", "Format"),
     ("HL", "Hebrew_Letter"), ("KA", "Katakana"), ("MB", "MidNumLet"), ("ML", "MidLetter"),
     ("MN", "MidNum"), ("NL", "Newline"), ("NU", "Numeric"), ("RI", "Regional_Indicator"),
     ("SQ", "Single_Quote")]),
   ("Sentence_Break",
    [("AT", "ATerm"), ("CL", "Close"), ("EX", "Extend"), ("FO", "Format"), ("LE", "OLetter"),
     ("LO", "Lower"), ("NU", "Numeric"), ("SC", "SContinue"), ("SE", "Sep"), ("SP", "Sp"),
     ("ST", "STerm"), ("UP", "Upper")])]

/-- The characters of a category or of a group of categories. -/
def ofCategoryName? (loose : String) : Option CharSet :=
  if loose == "any" then some .full
  else if loose == "ascii" then some ⟨[(0, 0x7F)]⟩
  else
    let entry := categoryNames.find? fun e => e.1.any fun name => looseName name.toList == loose
    entry.map fun e => Property.ofCategories e.2

/-- The short name of a script. -/
def scriptOf? (loose : String) : Option String :=
  let entry := Script.names.find? fun e =>
    (e.1 :: e.2).any fun name => looseName name.toList == loose
  entry.map (·.1)

/-- The characters of a property that a character has or has not. -/
def ofPropertyName? (loose : String) : Option CharSet :=
  let name := (lookupLoose propertyNames loose).getD loose
  let loose := looseName name.toList
  match lookupLoose Property.derived loose with
  | some set => some (set ())
  | none => (lookupLoose Property.listed loose).map fun lines => ⟨rangesOf lines⟩

/-- The characters of a class of borders. -/
def ofBreakName? (property : String) (classes : List (String × (Unit → CharSet)))
    (loose : String) : Option CharSet :=
  let name := (lookupLoose ((breakNames.lookup property).getD []) loose).getD loose
  (lookupLoose classes (looseName name.toList)).map (· ())

/-- The version of Unicode with a name such as `6.0` or `V6_0`. -/
def ageOf? (loose : String) : Option String :=
  Age.versions.find? fun v =>
    looseName v.toList == loose ||
      String.ofList ((v.toList.drop 1).map fun c => if c == '_' then '.' else c) == loose

/-- The characters whose property has a value. -/
def ofValue? (property value : List Char) : Option CharSet :=
  let value := looseName value
  match looseName property with
  | "gc" | "generalcategory" => ofCategoryName? value
  | "sc" | "script" => (scriptOf? value).map Script.members
  | "scx" | "scriptextensions" => (scriptOf? value).map Script.users
  | "age" => (ageOf? value).map Age.upTo
  | "gcb" | "graphemeclusterbreak" => ofBreakName? "Grapheme_Cluster_Break" Break.cluster value
  | "wb" | "wordbreak" => ofBreakName? "Word_Break" Break.word value
  | "sb" | "sentencebreak" => ofBreakName? "Sentence_Break" Break.sentence value
  | _ => none

/-- The characters of a property, a category or a script, whichever bears the name first. -/
def ofName? (name : List Char) : Option CharSet :=
  let loose := looseName name
  (ofPropertyName? loose).orElse fun _ =>
    (ofCategoryName? loose).orElse fun _ => (scriptOf? loose).map Script.members

end Landing.Unicode
