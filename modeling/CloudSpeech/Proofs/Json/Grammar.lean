import CloudSpeech.Json.Tree
import CloudSpeech.Proofs.Decimal.Numerals

/-!
# The grammar of JSON

Which texts spell which tree, stated without the reader: every blank between two tokens, every
spelling of a character in a string and every shape of a number. A string may hold a half of a
pair that has no other half; then its spelling is valid but no text is denoted by it. The reader
turns each text of the grammar into the tree that the text spells.
-/

namespace CloudSpeech.Json

/-! ## Blanks and numbers -/

/-- Text that may stand between two tokens. -/
def Blank (text : List Char) : Prop := ∀ c ∈ text, c = ' ' ∨ c = '\n' ∨ c = '\t' ∨ c = '\r'

instance (text : List Char) : Decidable (Blank text) := by unfold Blank; infer_instance

/-- The texts of an exponent, given by its sign and its digits. -/
inductive ExponentText : Option (Bool × List Char) → List Char → Prop where
  | absent : ExponentText none []
  | unsigned {mark : Char} {digits : List Char} (hmark : mark = 'e' ∨ mark = 'E')
      (hdigits : Decimal.Digits digits) : ExponentText (some (false, digits)) (mark :: digits)
  | plus {mark : Char} {digits : List Char} (hmark : mark = 'e' ∨ mark = 'E')
      (hdigits : Decimal.Digits digits) :
      ExponentText (some (false, digits)) (mark :: '+' :: digits)
  | minus {mark : Char} {digits : List Char} (hmark : mark = 'e' ∨ mark = 'E')
      (hdigits : Decimal.Digits digits) :
      ExponentText (some (true, digits)) (mark :: '-' :: digits)

/-- The texts of a fraction: whether there is a point, and the digits behind it. -/
inductive FractionText : Bool → List Char → List Char → Prop where
  | absent : FractionText false [] []
  | pointed {digits : List Char} (hdigits : Decimal.Digits digits) :
      FractionText true digits ('.' :: digits)

/-- The texts of a number. No zero stands in front of other digits. -/
inductive NumberSpelling : NumberText → List Char → Prop where
  | intro (negative : Bool) {pointed : Bool} {whole fraction fractionText exponentText : List Char}
      {exponent : Option (Bool × List Char)} (hwhole : Decimal.Digits whole)
      (hzero : whole.head? = some '0' → whole.length = 1)
      (hfraction : FractionText pointed fraction fractionText)
      (hexponent : ExponentText exponent exponentText) :
      NumberSpelling ⟨negative, whole, fraction, pointed, exponent⟩
        ((if negative then ['-'] else []) ++ (whole ++ (fractionText ++ exponentText)))

/-! ## Strings -/

/-- The digit of base sixteen for a number, small or capital. -/
def HexDigit (digit : Char) (n : Nat) : Prop :=
  n < 16 ∧ (digit = Nat.digitChar n ∨ digit = (Nat.digitChar n).toUpper)

instance (digit : Char) (n : Nat) : Decidable (HexDigit digit n) :=
  inferInstanceAs (Decidable (_ ∧ _))

/-- The texts of a number of sixteen bits in four digits. -/
inductive UnitText : Nat → List Char → Prop where
  | intro {a b c d : Char} {p q r s : Nat} (ha : HexDigit a p) (hb : HexDigit b q)
      (hc : HexDigit c r) (hd : HexDigit d s) :
      UnitText (16 * (16 * (16 * p + q) + r) + s) [a, b, c, d]

/-- The letters after a backslash, each with the character that it stands for. -/
def shortEscapes : List (Char × Char) :=
  [('"', '"'), ('\\', '\\'), ('/', '/'), ('b', '\x08'), ('f', '\x0c'), ('n', '\n'), ('r', '\r'),
    ('t', '\t')]

/-- The texts of the parts of a string. -/
inductive PiecesText : List Piece → List Char → Prop where
  | nil : PiecesText [] []
  | plain {c : Char} {pieces : List Piece} {text : List Char} (hprint : 32 ≤ c.toNat)
      (hquote : c ≠ '"') (hslash : c ≠ '\\') (hrest : PiecesText pieces text) :
      PiecesText (.char c :: pieces) (c :: text)
  | escape {letter c : Char} {pieces : List Piece} {text : List Char}
      (hescape : (letter, c) ∈ shortEscapes) (hrest : PiecesText pieces text) :
      PiecesText (.char c :: pieces) ('\\' :: letter :: text)
  | unit {n : Nat} {pieces : List Piece} {digits text : List Char} (hunit : UnitText n digits)
      (hrest : PiecesText pieces text) :
      PiecesText (.unit n :: pieces) ('\\' :: 'u' :: (digits ++ text))

/-- The numbers of sixteen bits that stand for a character: one, or the two halves of a pair. -/
def utf16 (c : Char) : List Nat :=
  if c.toNat < 0x10000 then [c.toNat]
  else [0xd800 + (c.toNat - 0x10000) / 0x400, 0xdc00 + (c.toNat - 0x10000) % 0x400]

/-- What the parts of a string denote. -/
inductive Denotes : List Piece → List Char → Prop where
  | nil : Denotes [] []
  | char (c : Char) {pieces : List Piece} {content : List Char} (hrest : Denotes pieces content) :
      Denotes (.char c :: pieces) (c :: content)
  | units (c : Char) {pieces : List Piece} {content : List Char} (hrest : Denotes pieces content) :
      Denotes ((utf16 c).map .unit ++ pieces) (c :: content)

/-- The texts of a string with its quotes. Nothing is denoted if a half of a pair is alone. -/
inductive StringSpelling : Except Flaw String → List Char → Prop where
  | text {pieces : List Piece} {body : List Char} {content : String}
      (hbody : PiecesText pieces body) (hcontent : Denotes pieces content.toList) :
      StringSpelling (.ok content) ('"' :: (body ++ ['"']))
  | loneHalf {pieces : List Piece} {body : List Char} (hbody : PiecesText pieces body)
      (hnone : ∀ content, ¬ Denotes pieces content) :
      StringSpelling (.error .malformed) ('"' :: (body ++ ['"']))

/-- A string is spelled by itself if it needs no escapes. -/
theorem StringSpelling.plain {content : String}
    (h : ∀ c ∈ content.toList, 32 ≤ c.toNat ∧ c ≠ '"' ∧ c ≠ '\\') :
    StringSpelling (.ok content) ('"' :: (content.toList ++ ['"'])) := by
  have hpieces : ∀ chars : List Char, (∀ c ∈ chars, 32 ≤ c.toNat ∧ c ≠ '"' ∧ c ≠ '\\') →
      PiecesText (chars.map .char) chars ∧ Denotes (chars.map .char) chars := by
    intro chars hchars
    induction chars with
    | nil => exact ⟨.nil, .nil⟩
    | cons c rest ih =>
        obtain ⟨⟨hprint, hquote, hslash⟩, hrest⟩ := List.forall_mem_cons.mp hchars
        exact ⟨.plain hprint hquote hslash (ih hrest).1, .char c (ih hrest).2⟩
  exact .text (hpieces _ h).1 (hpieces _ h).2

/-! ## Values -/

mutual

/-- The texts of a value, without blanks around it. -/
inductive Spells : Tree → List Char → Prop where
  | null : Spells .null ['n', 'u', 'l', 'l']
  | yes : Spells (.bool true) ['t', 'r', 'u', 'e']
  | no : Spells (.bool false) ['f', 'a', 'l', 's', 'e']
  | number {number : NumberText} {text : List Char} (h : NumberSpelling number text) :
      Spells (.number number) text
  | string {content : Except Flaw String} {text : List Char} (h : StringSpelling content text) :
      Spells (.string content) text
  | emptyArray {blank : List Char} (hblank : Blank blank) :
      Spells (.array [] none) ('[' :: (blank ++ [']']))
  | array {items : List Tree} {text : List Char} (h : SpellsItems items text) :
      Spells (.array items none) ('[' :: (text ++ [']']))
  | emptyObject {blank : List Char} (hblank : Blank blank) :
      Spells (.object [] none) ('\x7b' :: (blank ++ ['\x7d']))
  | object {members : List (Except Flaw String × Tree)} {text : List Char}
      (h : SpellsMembers members text) :
      Spells (.object members none) ('\x7b' :: (text ++ ['\x7d']))

/-- The texts of the items of an array, one or more. -/
inductive SpellsItems : List Tree → List Char → Prop where
  | last {item : Tree} {before text after : List Char} (hbefore : Blank before)
      (h : Spells item text) (hafter : Blank after) :
      SpellsItems [item] (before ++ (text ++ after))
  | cons {item : Tree} {items : List Tree} {before text after more : List Char}
      (hbefore : Blank before) (h : Spells item text) (hafter : Blank after)
      (hmore : SpellsItems items more) :
      SpellsItems (item :: items) (before ++ (text ++ (after ++ ',' :: more)))

/-- The texts of a member of an object. -/
inductive SpellsMember : Except Flaw String × Tree → List Char → Prop where
  | intro {key : Except Flaw String} {value : Tree}
      {before keyText middle between text after : List Char} (hbefore : Blank before)
      (hkey : StringSpelling key keyText) (hmiddle : Blank middle) (hbetween : Blank between)
      (h : Spells value text) (hafter : Blank after) :
      SpellsMember (key, value)
        (before ++ (keyText ++ (middle ++ ':' :: (between ++ (text ++ after)))))

/-- The texts of the members of an object, one or more. -/
inductive SpellsMembers : List (Except Flaw String × Tree) → List Char → Prop where
  | last {member : Except Flaw String × Tree} {text : List Char} (h : SpellsMember member text) :
      SpellsMembers [member] text
  | cons {member : Except Flaw String × Tree} {members : List (Except Flaw String × Tree)}
      {text more : List Char} (h : SpellsMember member text)
      (hmore : SpellsMembers members more) :
      SpellsMembers (member :: members) (text ++ ',' :: more)

end

/-- The object with the given members. -/
def Tree.objectOf (members : List (String × Tree)) : Tree :=
  .object (members.map fun member => (.ok member.1, member.2)) none

/-- The texts of a tree, with blanks around it. -/
def IsText (tree : Tree) (text : String) : Prop :=
  ∃ before value after, Blank before ∧ Spells tree value ∧ Blank after ∧
    text.toList = before ++ (value ++ after)

end CloudSpeech.Json
