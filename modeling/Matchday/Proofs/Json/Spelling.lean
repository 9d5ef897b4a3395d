import Matchday.Json.Basic
import Matchday.Json.Source
import Mathlib.Data.List.Basic

/-!
# Texts of JSON values

A JSON value has many texts: blanks may stand around each piece.  The text without blanks and the
text with one item a line are two of them.

## Main definitions

* `IsBlank`: blanks only.
* `Listed`: items with commas between them.
* `Spells`: a text of a value.
* `IsText`: a text of a value with blanks around it.

## Main results

* `spells_compactChars`, `spells_prettyChars`: the two texts that are written.
-/

namespace Matchday.Json

/-- Blanks only. -/
def IsBlank (cs : List Char) : Prop :=
  ∀ c ∈ cs, isSpace (some c)

theorem isBlank_nil : IsBlank [] :=
  List.forall_mem_nil _

theorem isBlank_space : IsBlank [' '] :=
  List.forall_mem_singleton.2 rfl

theorem isBlank_lineBreak (level : Nat) : IsBlank (lineBreak level) := by
  refine List.forall_mem_cons.2 ⟨rfl, fun c hc => ?_⟩
  rw [List.eq_of_mem_replicate hc]
  rfl

/-- Texts of items with commas between them and blanks around them. -/
inductive Listed {α : Type} (P : α → List Char → Prop) : List α → List Char → Prop
  | nil {b : List Char} (hb : IsBlank b) : Listed P [] b
  | single {b v b' : List Char} {x : α} (hb : IsBlank b) (hx : P x v) (hb' : IsBlank b') :
    Listed P [x] (b ++ v ++ b')
  | cons {b v b' cs : List Char} {x y : α} {ys : List α} (hb : IsBlank b) (hx : P x v)
    (hb' : IsBlank b') (hys : Listed P (y :: ys) cs) :
    Listed P (x :: y :: ys) (b ++ v ++ b' ++ ',' :: cs)

/-- A text of a member: the key, a colon and a text of the value. -/
inductive MemberText (P : Json → List Char → Prop) : String × Json → List Char → Prop
  | intro {b b' v : List Char} {j : Json} (key : String) (hb : IsBlank b) (hb' : IsBlank b')
    (hj : P j v) : MemberText P (key, j) (quoted key ++ b ++ ':' :: b' ++ v)

/-- A text of a value. -/
inductive Spells : Json → List Char → Prop
  | null : Spells .null "null".toList
  | bool (b : Bool) : Spells (.bool b) (boolText b)
  | int (n : Int) : Spells (.int n) n.repr.toList
  | float (x : Float) : Spells (.float x) (floatText x)
  | text (s : String) : Spells (.text s) (quoted s)
  | array {items : List Json} {cs : List Char} (h : Listed Spells items cs) :
    Spells (.array items) ('[' :: cs ++ [']'])
  | object {members : List (String × Json)} {cs : List Char}
    (h : Listed (MemberText Spells) members cs) : Spells (.object members) ('\x7b' :: cs ++ ['\x7d'])

/-- There is a comma between any two items. -/
theorem Listed.length_le {α : Type} {P : α → List Char → Prop} {xs : List α} {cs : List Char}
    (h : Listed P xs cs) : xs.length ≤ cs.length + 1 := by
  induction h with
  | nil => simp
  | single => simp
  | cons _ _ _ _ ih =>
    simp only [List.length_cons, List.length_append] at ih ⊢
    omega

/-! ### Texts without blanks -/

mutual

theorem spells_compactChars : ∀ j : Json, Spells j j.compactChars
  | .null => .null
  | .bool b => .bool b
  | .int n => .int n
  | .float x => .float x
  | .text s => .text s
  | .array items => .array (listed_compactItems items)
  | .object members => .object (listed_compactMembers members)

theorem listed_compactItems : ∀ items : List Json, Listed Spells items (compactItems items)
  | [] => .nil isBlank_nil
  | [item] => by
    have hitem := Listed.single isBlank_nil (spells_compactChars item) isBlank_nil
    simpa [compactItems] using hitem
  | item :: item' :: items => by
    have hitems := Listed.cons isBlank_nil (spells_compactChars item) isBlank_nil
      (listed_compactItems (item' :: items))
    simpa [compactItems] using hitems

theorem listed_compactMembers :
    ∀ members : List (String × Json), Listed (MemberText Spells) members (compactMembers members)
  | [] => .nil isBlank_nil
  | [(key, value)] => by
    have hmember := MemberText.intro key isBlank_nil isBlank_nil (spells_compactChars value)
    simpa [compactMembers] using Listed.single isBlank_nil hmember isBlank_nil
  | (key, value) :: member :: members => by
    have hmember := MemberText.intro key isBlank_nil isBlank_nil (spells_compactChars value)
    simpa [compactMembers] using Listed.cons isBlank_nil hmember isBlank_nil
      (listed_compactMembers (member :: members))

end

/-! ### Texts with one item a line -/

mutual

theorem spells_prettyChars (level : Nat) : ∀ j : Json, Spells j (prettyChars level j)
  | .null => .null
  | .bool b => .bool b
  | .int n => .int n
  | .float x => .float x
  | .text s => .text s
  | .array [] => .array (.nil isBlank_nil)
  | .array (item :: items) => by
    have hitems := Spells.array (listed_prettyItems (level + 1) (isBlank_lineBreak level)
      (item :: items) (List.cons_ne_nil item items))
    simpa [prettyChars] using hitems
  | .object [] => .object (.nil isBlank_nil)
  | .object (member :: members) => by
    have hmembers := Spells.object (listed_prettyMembers (level + 1) (isBlank_lineBreak level)
      (member :: members) (List.cons_ne_nil member members))
    simpa [prettyChars] using hmembers

theorem listed_prettyItems (level : Nat) {b : List Char} (hb : IsBlank b) :
    ∀ items : List Json, items ≠ [] → Listed Spells items (prettyItems level items ++ b)
  | [], h => absurd rfl h
  | [item], _ => by
    have hitem := Listed.single (isBlank_lineBreak level) (spells_prettyChars level item) hb
    simpa [prettyItems] using hitem
  | item :: item' :: items, _ => by
    have hitems := Listed.cons (isBlank_lineBreak level) (spells_prettyChars level item)
      isBlank_nil (listed_prettyItems level hb (item' :: items) (List.cons_ne_nil item' items))
    simpa [prettyItems] using hitems

theorem listed_prettyMembers (level : Nat) {b : List Char} (hb : IsBlank b) :
    ∀ members : List (String × Json), members ≠ [] →
      Listed (MemberText Spells) members (prettyMembers level members ++ b)
  | [], h => absurd rfl h
  | [(key, value)], _ => by
    have hmember := MemberText.intro key isBlank_nil isBlank_space (spells_prettyChars level value)
    simpa [prettyMembers] using Listed.single (isBlank_lineBreak level) hmember hb
  | (key, value) :: member :: members, _ => by
    have hmember := MemberText.intro key isBlank_nil isBlank_space (spells_prettyChars level value)
    simpa [prettyMembers] using Listed.cons (isBlank_lineBreak level) hmember isBlank_nil
      (listed_prettyMembers level hb (member :: members) (List.cons_ne_nil member members))

end

/-! ### Whole texts -/

/-- A text of a value, with blanks around it. -/
def IsText (j : Json) (text : String) : Prop :=
  ∃ b cs b', IsBlank b ∧ Spells j cs ∧ IsBlank b' ∧ text.toList = b ++ cs ++ b'

theorem isText_compact (j : Json) : j.IsText j.compact :=
  ⟨[], j.compactChars, [], isBlank_nil, spells_compactChars j, isBlank_nil, by simp [compact]⟩

theorem isText_pretty (j : Json) : j.IsText j.pretty :=
  ⟨[], prettyChars 0 j, [], isBlank_nil, spells_prettyChars 0 j, isBlank_nil, by simp [pretty]⟩

end Matchday.Json
