/-
JSON text as Python's `json.dumps` writes it with its defaults.

Strings are written in printable ASCII: everything else, the quote and the backslash are
escaped, beyond the basic plane as two surrogates. What is written can be read in one way
only, also in front of other text.
-/

import Mathlib

set_option autoImplicit false

/-- What the code writes can be split off the front of any text. -/
def PrefixFree {Value Symbol : Type} (code : Value → List Symbol) : Prop :=
  ∀ value value' rest rest', code value ++ rest = code value' ++ rest' →
    value = value' ∧ rest = rest'

/-- The first mark ends what is in front of it. -/
theorem split_at_mark {Symbol : Type} {mark : Symbol} {rest rest' : List Symbol} :
    ∀ {front front' : List Symbol}, mark ∉ front → mark ∉ front' →
      front ++ mark :: rest = front' ++ mark :: rest' → front = front' ∧ rest = rest'
  | [], [], _, _, same => ⟨rfl, (List.cons.inj same).2⟩
  | [], _ :: _, _, clean', same =>
      absurd (List.mem_cons.mpr (Or.inl (List.cons.inj same).1)) clean'
  | _ :: _, [], clean, _, same =>
      absurd (List.mem_cons.mpr (Or.inl (List.cons.inj same).1.symm)) clean
  | symbol :: front, symbol' :: front', clean, clean', same => by
      rw [List.cons_append, List.cons_append] at same
      obtain ⟨rfl, more⟩ := List.cons.inj same
      obtain ⟨rfl, rfl⟩ := split_at_mark (fun member => clean (List.mem_cons_of_mem _ member))
        (fun member => clean' (List.mem_cons_of_mem _ member)) more
      exact ⟨rfl, rfl⟩

/-- Code words up to a mark that none of them begins with. -/
theorem PrefixFree.marked {Value Symbol : Type} {code : Value → List Symbol}
    (free : PrefixFree code) {mark : Symbol}
    (unmarked : ∀ value, ∃ first more, code value = first :: more ∧ first ≠ mark) :
    PrefixFree (fun values : List Value => values.flatMap code ++ [mark]) := by
  have apart : ∀ value rest rest', code value ++ rest ≠ mark :: rest' := by
    intro value rest rest' same
    obtain ⟨first, more, word, other⟩ := unmarked value
    rw [word, List.cons_append] at same
    exact other (List.cons.inj same).1
  intro values
  induction values with
  | nil =>
      intro values' rest rest' same
      cases values' with
      | nil => exact ⟨rfl, (List.cons.inj same).2⟩
      | cons value' values' =>
          simp only [List.flatMap_cons, List.append_assoc] at same
          exact absurd same.symm (apart _ _ _)
  | cons value values ih =>
      intro values' rest rest' same
      cases values' with
      | nil =>
          simp only [List.flatMap_cons, List.append_assoc] at same
          exact absurd same (apart _ _ _)
      | cons value' values' =>
          simp only [List.flatMap_cons, List.append_assoc] at same
          obtain ⟨rfl, more⟩ := free _ _ _ _ same
          obtain ⟨rfl, rfl⟩ := ih values' rest rest' (by
            simp only [List.append_assoc]
            exact more)
          exact ⟨rfl, rfl⟩

/-- Where the words of some values can be split off, what was written before a text breaks
off is at the front of what is written in full. -/
theorem prefix_of_flatMap {Value Symbol : Type} {code : Value → List Symbol} (valid : Value → Prop)
    (splits : ∀ value value' rest rest', valid value → valid value' →
      code value ++ rest = code value' ++ rest' → value = value' ∧ rest = rest')
    (nonempty : ∀ value, code value ≠ []) :
    ∀ {values values' : List Value}, (∀ value ∈ values, valid value) →
      (∀ value ∈ values', valid value) → values.flatMap code <+: values'.flatMap code →
        values <+: values'
  | [], _, _, _, _ => List.nil_prefix
  | value :: values, [], _, _, written => by
      have nothing := List.eq_nil_of_prefix_nil written
      rw [List.flatMap_cons, List.append_eq_nil_iff] at nothing
      exact absurd nothing.1 (nonempty value)
  | value :: values, value' :: values', sound, sound', written => by
      obtain ⟨rest, same⟩ := written
      rw [List.flatMap_cons, List.flatMap_cons, List.append_assoc] at same
      obtain ⟨rfl, more⟩ := splits _ _ _ _ (sound _ List.mem_cons_self)
        (sound' _ List.mem_cons_self) same
      exact List.cons_prefix_cons.mpr ⟨rfl, prefix_of_flatMap valid splits nonempty
        (fun value member => sound value (List.mem_cons_of_mem _ member))
        (fun value member => sound' value (List.mem_cons_of_mem _ member)) ⟨rest, more⟩⟩

namespace JsonText

/-! ### Characters -/

def quote : Char := Char.ofNat 34
def backslash : Char := Char.ofNat 92
def openBracket : Char := Char.ofNat 91
def closeBracket : Char := Char.ofNat 93
def openBrace : Char := Char.ofNat 123
def closeBrace : Char := Char.ofNat 125

/-- The characters with an escape of their own, and its letter. -/
def shortEscapes : List (Char × Char) :=
  [(quote, quote), (backslash, backslash), (Char.ofNat 10, 'n'), (Char.ofNat 13, 'r'),
    (Char.ofNat 9, 't'), (Char.ofNat 12, 'f'), (Char.ofNat 8, 'b')]

/-- Between the blank and the tilde. -/
def printable (c : Char) : Bool := decide (32 ≤ c.toNat ∧ c.toNat ≤ 126)

/-- A code unit of 16 bits in four hexadecimal digits. -/
def hex4 (unit : Nat) : List Char :=
  [Nat.digitChar (unit / 4096 % 16), Nat.digitChar (unit / 256 % 16),
    Nat.digitChar (unit / 16 % 16), Nat.digitChar (unit % 16)]

def unitEscape (unit : Nat) : List Char := backslash :: 'u' :: hex4 unit

def escape (c : Char) : List Char :=
  match shortEscapes.lookup c with
  | some letter => [backslash, letter]
  | none =>
      if printable c then [c]
      else if c.toNat < 65536 then unitEscape c.toNat
      else
        unitEscape (55296 + (c.toNat - 65536) / 1024) ++
          unitEscape (56320 + (c.toNat - 65536) % 1024)

/-! ### Reading a character back -/

def hexValue (digit : Char) : Nat :=
  if digit.toNat < 58 then digit.toNat - 48 else digit.toNat - 87

def unitOf (a b c d : Char) : Nat :=
  hexValue a * 4096 + hexValue b * 256 + hexValue c * 16 + hexValue d

/-- The character at the front of the text, after a code unit that was read. -/
def readUnit (unit : Nat) (rest : List Char) : Option (Char × List Char) :=
  if 55296 ≤ unit ∧ unit < 56320 then
    match rest with
    | _ :: _ :: a :: b :: c :: d :: rest =>
        some (Char.ofNat (65536 + (unit - 55296) * 1024 + (unitOf a b c d - 56320)), rest)
    | _ => none
  else some (Char.ofNat unit, rest)

def readEscape : List Char → Option (Char × List Char)
  | letter :: rest =>
      match shortEscapes.find? (fun short => short.2 = letter) with
      | some short => some (short.1, rest)
      | none =>
          match rest with
          | a :: b :: c :: d :: rest => readUnit (unitOf a b c d) rest
          | _ => none
  | [] => none

def readChar : List Char → Option (Char × List Char)
  | first :: rest => if first = backslash then readEscape rest else some (first, rest)
  | [] => none

theorem hexValue_digitChar {n : Nat} (small : n < 16) : hexValue (Nat.digitChar n) = n := by
  have all : ∀ i : Fin 16, hexValue (Nat.digitChar i) = i := by decide
  exact all ⟨n, small⟩

theorem unitOf_hex4 {unit : Nat} (small : unit < 65536) :
    unitOf (Nat.digitChar (unit / 4096 % 16)) (Nat.digitChar (unit / 256 % 16))
      (Nat.digitChar (unit / 16 % 16)) (Nat.digitChar (unit % 16)) = unit := by
  unfold unitOf
  rw [hexValue_digitChar (Nat.mod_lt _ (by decide)), hexValue_digitChar (Nat.mod_lt _ (by decide)),
    hexValue_digitChar (Nat.mod_lt _ (by decide)), hexValue_digitChar (Nat.mod_lt _ (by decide))]
  omega

theorem readChar_unitEscape {unit : Nat} (small : unit < 65536) (rest : List Char) :
    readChar (unitEscape unit ++ rest) = readUnit unit rest := by
  have letter : shortEscapes.find? (fun short => short.2 = 'u') = none := by decide
  unfold unitEscape hex4
  simp only [List.cons_append, List.nil_append, readChar, if_true, readEscape, letter,
    unitOf_hex4 small]

theorem ne_backslash_of_lookup {c : Char} (found : shortEscapes.lookup c = none) :
    c ≠ backslash := by
  rintro rfl
  exact absurd found (by decide)

theorem readChar_escape (c : Char) (rest : List Char) :
    readChar (escape c ++ rest) = some (c, rest) := by
  unfold escape
  cases found : shortEscapes.lookup c with
  | some letter =>
      have all : ∀ short ∈ shortEscapes,
          shortEscapes.find? (fun other => other.2 = short.2) = some short := by decide
      obtain ⟨before, after, split, _⟩ := List.lookup_eq_some_iff.mp found
      have listed : (c, letter) ∈ shortEscapes := by
        rw [split]
        exact List.mem_append_right _ List.mem_cons_self
      simp only [List.cons_append, List.nil_append, readChar, if_true, readEscape,
        all (c, letter) listed]
  | none =>
      dsimp only
      split
      · simp only [List.cons_append, List.nil_append, readChar,
          if_neg (ne_backslash_of_lookup found)]
      · split
        · rename_i small
          have plain : ¬(55296 ≤ c.toNat ∧ c.toNat < 56320) :=
            fun high => c.toNat_not_surrogate
              ⟨high.1, Nat.le_trans (Nat.le_of_lt high.2) (by decide)⟩
          rw [readChar_unitEscape small]
          unfold readUnit
          rw [if_neg plain, Char.ofNat_toNat]
        · have small : c.toNat ≤ 1114111 := c.toNat_le_max
          have low := @unitOf_hex4 (56320 + (c.toNat - 65536) % 1024) (by omega)
          have back : 65536 + (55296 + (c.toNat - 65536) / 1024 - 55296) * 1024 +
              (56320 + (c.toNat - 65536) % 1024 - 56320) = c.toNat := by omega
          rw [List.append_assoc, readChar_unitEscape (by omega)]
          unfold readUnit
          rw [if_pos (by omega)]
          simp only [unitEscape, hex4, List.cons_append, List.nil_append, low, back,
            Char.ofNat_toNat]

theorem escape_prefixFree : PrefixFree escape := by
  intro c c' rest rest' same
  have read := readChar_escape c rest
  rw [same, readChar_escape] at read
  obtain ⟨rfl, rfl⟩ := Prod.mk.inj (Option.some.inj read)
  exact ⟨rfl, rfl⟩

/-! ### Strings -/

def stringText (text : String) : List Char := quote :: (text.toList.flatMap escape ++ [quote])

theorem escape_unquoted (c : Char) : ∃ first more, escape c = first :: more ∧ first ≠ quote := by
  unfold escape
  cases found : shortEscapes.lookup c with
  | some letter => exact ⟨_, _, rfl, by decide⟩
  | none =>
      dsimp only
      split
      · refine ⟨_, _, rfl, ?_⟩
        rintro rfl
        exact absurd found (by decide)
      · split
        · exact ⟨_, _, rfl, by decide⟩
        · exact ⟨_, _, rfl, by decide⟩

theorem stringText_prefixFree : PrefixFree stringText := by
  intro text text' rest rest' same
  simp only [stringText, List.cons_append] at same
  obtain ⟨characters, rfl⟩ := escape_prefixFree.marked escape_unquoted _ _ _ _
    (List.cons.inj same).2
  exact ⟨String.toList_injective characters, rfl⟩

/-! ### Numbers -/

/-- The characters of numbers. -/
def isNumeric (c : Char) : Bool := c.isDigit || "+-.e".toList.contains c

/-- The text of a finite number. -/
structure Number where
  text : List Char
  nonempty : text ≠ []
  numeric : ∀ c ∈ text, isNumeric c = true

theorem isNumeric_of_isDigit {c : Char} (digit : c.isDigit = true) : isNumeric c = true := by
  rw [isNumeric, digit, Bool.true_or]

theorem isNumeric_of_repr {n : Nat} {c : Char} (member : c ∈ n.repr.toList) :
    isNumeric c = true := by
  rw [Nat.toList_repr] at member
  exact isNumeric_of_isDigit (Nat.isDigit_of_mem_toDigits (by decide) (by decide) member)

/-- `int.__repr__`. -/
def Number.int (n : Int) : Number where
  text := n.repr.toList
  nonempty := by
    rw [Int.repr_eq_if]
    split
    · rw [Nat.toList_repr]
      exact Nat.toDigits_ne_nil
    · rw [String.toList_append]
      exact List.cons_ne_nil _ _
  numeric := by
    intro c member
    rw [Int.repr_eq_if] at member
    split at member
    · exact isNumeric_of_repr member
    · rw [String.toList_append, List.mem_append] at member
      rcases member with sign | digit
      · rw [List.mem_singleton.mp sign]
        decide
      · exact isNumeric_of_repr digit

theorem Number.int_injective {m n : Int} (same : Number.int m = Number.int n) : m = n :=
  Int.repr_injective (String.toList_injective (congrArg Number.text same))

/-- The text does not go on with a number. -/
def Ends (rest : List Char) : Prop := ∀ c more, rest = c :: more → isNumeric c = false

theorem ends_nil : Ends [] := fun _ _ impossible => by cases impossible

theorem takeWhile_number (number : Number) {rest : List Char} (ends : Ends rest) :
    (number.text ++ rest).takeWhile isNumeric = number.text := by
  rw [List.takeWhile_append_of_pos number.numeric]
  cases rest with
  | nil => rw [List.takeWhile_nil, List.append_nil]
  | cons c more =>
      rw [List.takeWhile_cons_of_neg (by rw [ends c more rfl]; decide), List.append_nil]

theorem number_unique {number number' : Number} {rest rest' : List Char} (ends : Ends rest)
    (ends' : Ends rest') (same : number.text ++ rest = number'.text ++ rest') :
    number = number' ∧ rest = rest' := by
  have texts : number.text = number'.text := by
    rw [← takeWhile_number number ends, same, takeWhile_number number' ends']
  refine ⟨?_, ?_⟩
  · cases number
    cases number'
    cases texts
    rfl
  · rw [texts] at same
    exact List.append_cancel_left same

/-! ### Values -/

/-- What `json.dumps` is given, the entries of a dict in its order. -/
inductive Value where
  | null
  | bool (b : Bool)
  | number (n : Number)
  | string (text : String)
  | array (items : List Value)
  | object (fields : List (String × Value))

mutual

/-- `json.dumps(value)`. -/
def dumps : Value → List Char
  | .null => ['n', 'u', 'l', 'l']
  | .bool true => ['t', 'r', 'u', 'e']
  | .bool false => ['f', 'a', 'l', 's', 'e']
  | .number n => n.text
  | .string text => stringText text
  | .array [] => [openBracket, closeBracket]
  | .array (item :: items) => openBracket :: (dumps item ++ dumpsItems items)
  | .object [] => [openBrace, closeBrace]
  | .object ((key, value) :: fields) =>
      openBrace :: (stringText key ++ ':' :: ' ' :: (dumps value ++ dumpsFields fields))

/-- What follows an item of an array. -/
def dumpsItems : List Value → List Char
  | [] => [closeBracket]
  | item :: items => ',' :: ' ' :: (dumps item ++ dumpsItems items)

/-- What follows an entry of an object. -/
def dumpsFields : List (String × Value) → List Char
  | [] => [closeBrace]
  | (key, value) :: fields =>
      ',' :: ' ' :: (stringText key ++ ':' :: ' ' :: (dumps value ++ dumpsFields fields))

end

/-- The sort of a value, which its first character tells. -/
def Value.sort : Value → Nat
  | .null => 0
  | .bool true => 1
  | .bool false => 2
  | .string _ => 3
  | .array _ => 4
  | .object _ => 5
  | .number _ => 6

def sortOf (first : Char) : Nat :=
  ['n', 't', 'f', quote, openBracket, openBrace].idxOf first

theorem sortOf_numeric {c : Char} (numeric : isNumeric c = true) : sortOf c = 6 := by
  refine List.idxOf_eq_length (fun member => ?_)
  have others : ['n', 't', 'f', quote, openBracket, openBrace].all (fun first =>
      !isNumeric first) = true := by decide
  have other := List.all_eq_true.mp others c member
  rw [numeric] at other
  cases other

theorem dumps_first (value : Value) : ∃ first more, dumps value = first :: more ∧
    sortOf first = value.sort ∧ first ≠ closeBracket := by
  cases value with
  | null => exact ⟨_, _, rfl, by decide, by decide⟩
  | bool b => cases b <;> exact ⟨_, _, rfl, by decide, by decide⟩
  | number n =>
      obtain ⟨first, more, split⟩ := List.exists_cons_of_ne_nil n.nonempty
      have numeric := n.numeric first (by
        rw [split]
        exact List.mem_cons_self)
      refine ⟨first, more, split, sortOf_numeric numeric, ?_⟩
      rintro rfl
      exact absurd numeric (by decide)
  | string text => exact ⟨_, _, rfl, (by decide : sortOf quote = 3), by decide⟩
  | array items =>
      cases items <;> exact ⟨_, _, rfl, (by decide : sortOf openBracket = 4), by decide⟩
  | object fields =>
      cases fields <;> exact ⟨_, _, rfl, (by decide : sortOf openBrace = 5), by decide⟩

theorem sort_eq_of_dumps {value value' : Value} {rest rest' : List Char}
    (same : dumps value ++ rest = dumps value' ++ rest') : value.sort = value'.sort := by
  obtain ⟨first, more, split, sort, _⟩ := dumps_first value
  obtain ⟨first', more', split', sort', _⟩ := dumps_first value'
  rw [split, split', List.cons_append, List.cons_append] at same
  rw [← sort, ← sort', (List.cons.inj same).1]

theorem dumps_ne_close (value : Value) (rest rest' : List Char) :
    dumps value ++ rest ≠ closeBracket :: rest' := by
  intro same
  obtain ⟨first, more, split, _, inside⟩ := dumps_first value
  rw [split, List.cons_append] at same
  exact inside (List.cons.inj same).1

theorem ends_dumpsItems (items : List Value) (rest : List Char) :
    Ends (dumpsItems items ++ rest) := by
  intro c more same
  cases items <;> cases same <;> decide

theorem ends_dumpsFields (fields : List (String × Value)) (rest : List Char) :
    Ends (dumpsFields fields ++ rest) := by
  intro c more same
  cases fields <;> cases same <;> decide

mutual

/-- A value is read back from the front of a text that goes on in any way but as a number. -/
theorem dumps_unique (value value' : Value) {rest rest' : List Char} (ends : Ends rest)
    (ends' : Ends rest') (same : dumps value ++ rest = dumps value' ++ rest') :
    value = value' ∧ rest = rest' := by
  have sort := sort_eq_of_dumps same
  cases value with
  | null =>
      cases value' with
      | null => exact ⟨rfl, List.append_cancel_left same⟩
      | bool b => cases b <;> cases sort
      | _ => cases sort
  | bool b =>
      cases value' with
      | bool b' =>
          cases b <;> cases b' <;> first
            | exact ⟨rfl, List.append_cancel_left same⟩
            | cases sort
      | _ => cases b <;> cases sort
  | number n =>
      cases value' with
      | number n' =>
          obtain ⟨rfl, rfl⟩ := number_unique ends ends' same
          exact ⟨rfl, rfl⟩
      | bool b => cases b <;> cases sort
      | _ => cases sort
  | string text =>
      cases value' with
      | string text' =>
          obtain ⟨rfl, rfl⟩ := stringText_prefixFree _ _ _ _ same
          exact ⟨rfl, rfl⟩
      | bool b => cases b <;> cases sort
      | _ => cases sort
  | array items =>
      cases value' with
      | array items' =>
          cases items with
          | nil =>
              cases items' with
              | nil => exact ⟨rfl, List.append_cancel_left same⟩
              | cons item' items' =>
                  simp only [dumps, List.cons_append, List.nil_append, List.append_assoc,
                    List.cons.injEq, true_and] at same
                  exact absurd same.symm (dumps_ne_close _ _ _)
          | cons item items =>
              cases items' with
              | nil =>
                  simp only [dumps, List.cons_append, List.nil_append, List.append_assoc,
                    List.cons.injEq, true_and] at same
                  exact absurd same (dumps_ne_close _ _ _)
              | cons item' items' =>
                  simp only [dumps, List.cons_append, List.append_assoc, List.cons.injEq,
                    true_and] at same
                  obtain ⟨rfl, more⟩ := dumps_unique item item' (ends_dumpsItems items rest)
                    (ends_dumpsItems items' rest') same
                  obtain ⟨rfl, rfl⟩ := dumpsItems_unique items items' more
                  exact ⟨rfl, rfl⟩
      | bool b => cases b <;> cases sort
      | _ => cases sort
  | object fields =>
      cases value' with
      | object fields' =>
          cases fields with
          | nil =>
              cases fields' with
              | nil => exact ⟨rfl, List.append_cancel_left same⟩
              | cons field' fields' =>
                  simp only [dumps, stringText, List.cons_append, List.cons.injEq, true_and] at same
                  exact absurd same.1 (by decide)
          | cons field fields =>
              cases fields' with
              | nil =>
                  simp only [dumps, stringText, List.cons_append, List.cons.injEq, true_and] at same
                  exact absurd same.1 (by decide)
              | cons field' fields' =>
                  obtain ⟨key, value⟩ := field
                  obtain ⟨key', value'⟩ := field'
                  simp only [dumps, List.cons_append, List.append_assoc, List.cons.injEq,
                    true_and] at same
                  obtain ⟨rfl, next⟩ := stringText_prefixFree _ _ _ _ same
                  simp only [List.cons.injEq, true_and] at next
                  obtain ⟨rfl, more⟩ := dumps_unique value value' (ends_dumpsFields fields rest)
                    (ends_dumpsFields fields' rest') next
                  obtain ⟨rfl, rfl⟩ := dumpsFields_unique fields fields' more
                  exact ⟨rfl, rfl⟩
      | bool b => cases b <;> cases sort
      | _ => cases sort

theorem dumpsItems_unique : ∀ (items items' : List Value) {rest rest' : List Char},
    dumpsItems items ++ rest = dumpsItems items' ++ rest' → items = items' ∧ rest = rest'
  | [], [], _, _, same => by
      rw [dumpsItems] at same
      exact ⟨rfl, (List.cons.inj same).2⟩
  | [], _ :: _, _, _, same => by
      rw [dumpsItems, dumpsItems] at same
      exact absurd (List.cons.inj same).1 (by decide)
  | _ :: _, [], _, _, same => by
      rw [dumpsItems, dumpsItems] at same
      exact absurd (List.cons.inj same).1 (by decide)
  | item :: items, item' :: items', rest, rest', same => by
      rw [dumpsItems, dumpsItems] at same
      simp only [List.cons_append, List.append_assoc, List.cons.injEq, true_and] at same
      obtain ⟨rfl, more⟩ := dumps_unique item item' (ends_dumpsItems items rest)
        (ends_dumpsItems items' rest') same
      obtain ⟨rfl, rfl⟩ := dumpsItems_unique items items' more
      exact ⟨rfl, rfl⟩

theorem dumpsFields_unique : ∀ (fields fields' : List (String × Value)) {rest rest' : List Char},
    dumpsFields fields ++ rest = dumpsFields fields' ++ rest' → fields = fields' ∧ rest = rest'
  | [], [], _, _, same => by
      rw [dumpsFields] at same
      exact ⟨rfl, (List.cons.inj same).2⟩
  | [], _ :: _, _, _, same => by
      rw [dumpsFields, dumpsFields] at same
      exact absurd (List.cons.inj same).1 (by decide)
  | _ :: _, [], _, _, same => by
      rw [dumpsFields, dumpsFields] at same
      exact absurd (List.cons.inj same).1 (by decide)
  | (key, value) :: fields, (key', value') :: fields', rest, rest', same => by
      rw [dumpsFields, dumpsFields] at same
      simp only [List.cons_append, List.append_assoc, List.cons.injEq, true_and] at same
      obtain ⟨rfl, next⟩ := stringText_prefixFree _ _ _ _ same
      simp only [List.cons.injEq, true_and] at next
      obtain ⟨rfl, more⟩ := dumps_unique value value' (ends_dumpsFields fields rest)
        (ends_dumpsFields fields' rest') next
      obtain ⟨rfl, rfl⟩ := dumpsFields_unique fields fields' more
      exact ⟨rfl, rfl⟩

end

theorem dumps_injective {value value' : Value} (same : dumps value = dumps value') :
    value = value' :=
  (dumps_unique value value' ends_nil ends_nil (by rw [same])).1

/-! ### The characters that are written -/

theorem printable_digitChar (n : Nat) : printable (Nat.digitChar (n % 16)) = true := by
  have digits : ∀ i : Fin 16, printable (Nat.digitChar i) = true := by decide
  exact digits ⟨n % 16, Nat.mod_lt _ (by decide)⟩

theorem printable_unitEscape (unit : Nat) : (unitEscape unit).all printable = true := by
  simp only [unitEscape, hex4, List.all_cons, List.all_nil, printable_digitChar]
  decide

theorem printable_escape (c : Char) : (escape c).all printable = true := by
  unfold escape
  cases found : shortEscapes.lookup c with
  | some letter =>
      have all : shortEscapes.all (fun short => printable short.2) = true := by decide
      obtain ⟨before, after, split, _⟩ := List.lookup_eq_some_iff.mp found
      have own : printable letter = true := List.all_eq_true.mp all (c, letter) (by
        rw [split]
        exact List.mem_append_right _ List.mem_cons_self)
      simp only [List.all_cons, List.all_nil, own]
      decide
  | none =>
      dsimp only
      split
      · rename_i plain
        rw [List.all_cons, List.all_nil, plain, Bool.true_and]
      · split
        · exact printable_unitEscape _
        · rw [List.all_append, printable_unitEscape, printable_unitEscape, Bool.true_and]

theorem printable_stringText (text : String) : (stringText text).all printable = true := by
  have inside : (text.toList.flatMap escape).all printable = true := by
    induction text.toList with
    | nil => rfl
    | cons c characters ih => rw [List.flatMap_cons, List.all_append, printable_escape, ih,
        Bool.true_and]
  simp only [stringText, List.all_cons, List.all_append, List.all_nil, inside]
  decide

theorem printable_of_isNumeric {c : Char} (numeric : isNumeric c = true) :
    printable c = true := by
  unfold isNumeric at numeric
  rcases Bool.or_eq_true_iff.mp numeric with digit | mark
  · unfold Char.isDigit at digit
    simp only [Bool.and_eq_true, decide_eq_true_eq, ge_iff_le, UInt32.le_iff_toNat_le] at digit
    have low : 48 ≤ c.toNat := digit.1
    have high : c.toNat ≤ 57 := digit.2
    unfold printable
    rw [decide_eq_true_iff]
    omega
  · have all : "+-.e".toList.all printable = true := by decide
    exact List.all_eq_true.mp all c (List.contains_iff_mem.mp mark)

mutual

/-- What is written is ASCII on one line. -/
theorem printable_dumps (value : Value) : (dumps value).all printable = true := by
  cases value with
  | null => decide
  | bool b => cases b <;> decide
  | number n =>
      exact List.all_eq_true.mpr (fun c member => printable_of_isNumeric (n.numeric c member))
  | string text => exact printable_stringText text
  | array items =>
      cases items with
      | nil => decide
      | cons item items =>
          simp only [dumps, List.all_cons, List.all_append, printable_dumps item,
            printable_dumpsItems items]
          decide
  | object fields =>
      cases fields with
      | nil => decide
      | cons field fields =>
          obtain ⟨key, value⟩ := field
          simp only [dumps, List.all_cons, List.all_append, printable_stringText,
            printable_dumps value, printable_dumpsFields fields]
          decide

theorem printable_dumpsItems (items : List Value) :
    (dumpsItems items).all printable = true := by
  cases items with
  | nil => decide
  | cons item items =>
      simp only [dumpsItems, List.all_cons, List.all_append, printable_dumps item,
        printable_dumpsItems items]
      decide

theorem printable_dumpsFields (fields : List (String × Value)) :
    (dumpsFields fields).all printable = true := by
  cases fields with
  | nil => decide
  | cons field fields =>
      obtain ⟨key, value⟩ := field
      simp only [dumpsFields, List.all_cons, List.all_append, printable_stringText,
        printable_dumps value, printable_dumpsFields fields]
      decide

end

end JsonText
