import Matchday.Toml.Tree
import Matchday.Toml.Token
import Mathlib

/-!
# Texts in tokens, values and tables

How often a text stands somewhere, and what becomes of it when another text is put in its place.
Keys are no texts here.  Tables under construction take in each value once, and putting one text in
the place of another makes no difference to them.

## Main definitions

* `Toml.HasTexts`: something with texts in it, which are counted and replaced.

## Main results

* `Toml.Value.replaceText_eq_self`: nothing is replaced where the text does not stand.
* `Toml.count_assign`, `Toml.assign_replace`: the same for `assign`.
* `Toml.count_changeAt_le`, `Toml.changeAt_replace`: the same for `changeAt`.
* `Toml.Node.count_finish`, `Toml.Node.finish_replace`: the same for finished values.
-/

namespace Matchday.Toml

/-- Something with texts in it. -/
class HasTexts (α : Type) where
  /-- How often a text stands in it. -/
  count (s : String) : α → Nat
  /-- The same with another text in the place of one. -/
  replace (old new : String) : α → α

open HasTexts

section Instances

variable {α β : Type} [HasTexts α] [HasTexts β]

instance : HasTexts Unit where
  count _ _ := 0
  replace _ _ a := a

instance : HasTexts Bool where
  count _ _ := 0
  replace _ _ a := a

/-- What stands by itself is a key. -/
instance : HasTexts String where
  count _ _ := 0
  replace _ _ a := a

instance : HasTexts (α × β) where
  count s a := count s a.1 + count s a.2
  replace old new a := (replace old new a.1, replace old new a.2)

instance : HasTexts (List α) where
  count s as := (as.map (count s)).sum
  replace old new as := as.map (replace old new)

variable {s old new : String}

@[simp] theorem count_key (k : String) : count s k = 0 := rfl
@[simp] theorem count_bool (b : Bool) : count s b = 0 := rfl
@[simp] theorem count_unit (u : Unit) : count s u = 0 := rfl
@[simp] theorem replace_key (k : String) : replace old new k = k := rfl
@[simp] theorem replace_bool (b : Bool) : replace old new b = b := rfl
@[simp] theorem replace_unit (u : Unit) : replace old new u = u := rfl

@[simp] theorem count_pair (a : α) (b : β) : count s (a, b) = count s a + count s b := rfl

@[simp] theorem replace_pair (a : α) (b : β) :
    replace old new (a, b) = (replace old new a, replace old new b) := rfl

@[simp] theorem count_nil : count s ([] : List α) = 0 := rfl

@[simp] theorem count_cons (a : α) (as : List α) :
    count s (a :: as) = count s a + count s as := rfl

@[simp] theorem count_append (as bs : List α) : count s (as ++ bs) = count s as + count s bs := by
  induction as with
  | nil => simp
  | cons a as ih => simp [ih, Nat.add_assoc]

theorem count_eq_zero_of_mem {a : α} {as : List α} (h : count s as = 0) (ha : a ∈ as) :
    count s a = 0 := by
  induction as with
  | nil => cases ha
  | cons b as ih =>
    obtain ⟨hb, has⟩ := Nat.add_eq_zero_iff.1 h
    rcases List.mem_cons.1 ha with rfl | ha
    · exact hb
    · exact ih has ha

@[simp] theorem replace_nil : replace old new ([] : List α) = [] := rfl

@[simp] theorem replace_cons (a : α) (as : List α) :
    replace old new (a :: as) = replace old new a :: replace old new as := rfl

@[simp] theorem replace_append (as bs : List α) :
    replace old new (as ++ bs) = replace old new as ++ replace old new bs := List.map_append

theorem replace_eq_self_of_forall {as : List α} (h : ∀ a ∈ as, replace old new a = a) :
    replace old new as = as :=
  (List.map_congr_left h).trans (List.map_id' as)

@[simp] theorem length_replace (as : List α) : (replace old new as).length = as.length :=
  List.length_map _

@[simp] theorem head?_replace (as : List α) :
    (replace old new as).head? = as.head?.map (replace old new) := List.head?_map

@[simp] theorem getLast?_replace (as : List α) :
    (replace old new as).getLast? = as.getLast?.map (replace old new) := List.getLast?_map

@[simp] theorem dropLast_replace (as : List α) :
    (replace old new as).dropLast = replace old new as.dropLast := List.map_dropLast.symm

@[simp] theorem tail_replace (as : List α) :
    (replace old new as).tail = replace old new as.tail := List.map_tail.symm

@[simp] theorem count_keys (ks : List String) : count s ks = 0 := by
  induction ks with
  | nil => rfl
  | cons k ks ih => simp [ih]

@[simp] theorem replace_keys (ks : List String) : replace old new ks = ks := List.map_id _

@[simp] theorem lookup_replace (k : String) (es : List (String × α)) :
    (replace old new es).lookup k = (es.lookup k).map (replace old new) := by
  induction es with
  | nil => rfl
  | cons e es ih =>
    obtain ⟨k', a⟩ := e
    rw [replace_cons, replace_pair, replace_key, List.lookup_cons, List.lookup_cons]
    split
    · rfl
    · exact ih

end Instances

/-! ### Tokens -/

/-- How often a text stands in a token. -/
def Token.countText (s : String) : Token → Nat
  | .text t _ => if t = s then 1 else 0
  | _ => 0

/-- A token with another text in place of one. -/
def Token.replaceText (old new : String) : Token → Token
  | .text t isMultiline => .text (if t = old then new else t) isMultiline
  | t => t

instance : HasTexts Token := ⟨Token.countText, Token.replaceText⟩

@[simp] theorem count_textToken {s t : String} {isMultiline : Bool} :
    count s (Token.text t isMultiline) = if t = s then 1 else 0 := rfl

@[simp] theorem replace_textToken {old new t : String} {isMultiline : Bool} :
    replace old new (Token.text t isMultiline) =
      .text (if t = old then new else t) isMultiline := rfl

theorem tokens_replace_eq_self {s new : String} {ts : List Token} (h : count s ts = 0) :
    replace s new ts = ts := by
  refine replace_eq_self_of_forall fun t ht => ?_
  have ht := count_eq_zero_of_mem h ht
  cases t with
  | text t isMultiline =>
    have hne : t ≠ s := by simpa using ht
    rw [replace_textToken, if_neg hne]
  | _ => rfl

theorem exists_text_mem_of_count_pos {s : String} {ts : List Token} (h : 0 < count s ts) :
    ∃ isMultiline, .text s isMultiline ∈ ts := by
  induction ts with
  | nil => cases h
  | cons t ts ih =>
    by_cases hts : 0 < count s ts
    · obtain ⟨isMultiline, hmem⟩ := ih hts
      exact ⟨isMultiline, List.mem_cons_of_mem _ hmem⟩
    · rw [count_cons, Nat.eq_zero_of_not_pos hts] at h
      cases t with
      | text t isMultiline =>
        have ht : t = s := by
          by_contra hne
          simp [hne] at h
        exact ⟨isMultiline, ht ▸ List.mem_cons_self⟩
      | _ => cases h

/-! ### Values -/

theorem sizeOf_snd_lt {α : Type} [SizeOf α] {es : List (String × α)} {e : String × α}
    (h : e ∈ es) : sizeOf e.2 < sizeOf es := by
  have hlt := List.sizeOf_lt_of_mem h
  have heq : sizeOf e = 1 + sizeOf e.1 + sizeOf e.2 := rfl
  omega

/-- How often a text stands in a value. -/
def Value.countText (s : String) : Value → Nat
  | .text t => if t = s then 1 else 0
  | .array items => (items.map (·.countText s)).sum
  | .table entries => (entries.map (·.2.countText s)).sum
  | _ => 0
decreasing_by
  · decreasing_tactic
  · have := sizeOf_snd_lt ‹_›
    simp only [table.sizeOf_spec]
    omega

/-- A value with another text in place of one. -/
def Value.replaceText (old new : String) : Value → Value
  | .text t => .text (if t = old then new else t)
  | .array items => .array (items.map (·.replaceText old new))
  | .table entries => .table (entries.map fun e => (e.1, e.2.replaceText old new))
  | v => v
decreasing_by
  · decreasing_tactic
  · have := sizeOf_snd_lt ‹_›
    simp only [table.sizeOf_spec]
    omega

instance : HasTexts Value := ⟨Value.countText, Value.replaceText⟩

/-- How often a text stands in what a table is built of. -/
def Node.countText (s : String) : Node → Nat
  | .value v => v.countText s
  | .table _ entries => (entries.map (·.2.countText s)).sum
  | .tables items => (items.map fun entries => (entries.map (·.2.countText s)).sum).sum
decreasing_by
  · have := sizeOf_snd_lt ‹_›
    simp only [table.sizeOf_spec]
    omega
  · have := sizeOf_snd_lt ‹_›
    have := List.sizeOf_lt_of_mem ‹entries ∈ items›
    simp only [tables.sizeOf_spec]
    omega

/-- What a table is built of, with another text in place of one. -/
def Node.replaceText (old new : String) : Node → Node
  | .value v => .value (v.replaceText old new)
  | .table origin entries => .table origin (entries.map fun e => (e.1, e.2.replaceText old new))
  | .tables items =>
    .tables (items.map fun entries => entries.map fun e => (e.1, e.2.replaceText old new))
decreasing_by
  · have := sizeOf_snd_lt ‹_›
    simp only [table.sizeOf_spec]
    omega
  · have := sizeOf_snd_lt ‹_›
    have := List.sizeOf_lt_of_mem ‹entries ∈ items›
    simp only [tables.sizeOf_spec]
    omega

instance : HasTexts Node := ⟨Node.countText, Node.replaceText⟩

section Values

variable {s old new : String}

@[simp] theorem count_text (t : String) : count s (Value.text t) = if t = s then 1 else 0 :=
  Value.countText.eq_1 ..

@[simp] theorem count_int (n : Int) : count s (Value.int n) = 0 := by
  simp [count, Value.countText]

@[simp] theorem count_float (x : Float) : count s (Value.float x) = 0 := by
  simp [count, Value.countText]

@[simp] theorem count_boolValue (b : Bool) : count s (Value.bool b) = 0 := by
  simp [count, Value.countText]

@[simp] theorem count_moment (t : String) : count s (Value.moment t) = 0 := by
  simp [count, Value.countText]

theorem count_entries {α : Type} [HasTexts α] (es : List (String × α)) :
    count s es = (es.map fun e => count s e.2).sum :=
  congrArg List.sum (List.map_congr_left fun _ _ => Nat.zero_add _)

@[simp] theorem count_array (items : List Value) : count s (Value.array items) = count s items :=
  Value.countText.eq_2 ..

@[simp] theorem count_table (entries : List (String × Value)) :
    count s (Value.table entries) = count s entries :=
  (Value.countText.eq_3 ..).trans (count_entries entries).symm

@[simp] theorem replace_text (t : String) :
    replace old new (Value.text t) = .text (if t = old then new else t) :=
  Value.replaceText.eq_1 ..

@[simp] theorem replace_array (items : List Value) :
    replace old new (Value.array items) = .array (replace old new items) :=
  Value.replaceText.eq_2 ..

@[simp] theorem replace_table (entries : List (String × Value)) :
    replace old new (Value.table entries) = .table (replace old new entries) :=
  Value.replaceText.eq_3 ..

@[simp] theorem count_valueNode (v : Value) : count s (Node.value v) = count s v :=
  Node.countText.eq_1 ..

@[simp] theorem count_tableNode (origin : Origin) (entries : Entries) :
    count s (Node.table origin entries) = count s entries :=
  (Node.countText.eq_2 ..).trans (count_entries entries).symm

@[simp] theorem count_tablesNode (items : List Entries) :
    count s (Node.tables items) = count s items :=
  (Node.countText.eq_3 ..).trans
    (congrArg List.sum (List.map_congr_left fun entries _ => (count_entries entries).symm))

@[simp] theorem replace_valueNode (v : Value) :
    replace old new (Node.value v) = .value (replace old new v) :=
  Node.replaceText.eq_1 ..

@[simp] theorem replace_tableNode (origin : Origin) (entries : Entries) :
    replace old new (Node.table origin entries) = .table origin (replace old new entries) :=
  Node.replaceText.eq_2 ..

@[simp] theorem replace_tablesNode (items : List Entries) :
    replace old new (Node.tables items) = .tables (replace old new items) :=
  Node.replaceText.eq_3 ..

/-- **Nothing is replaced** where the text does not stand. -/
theorem Value.replaceText_eq_self (v : Value) (h : count old v = 0) : replace old new v = v := by
  match v with
  | .text t =>
    have ht : t ≠ old := by simpa using h
    rw [replace_text, if_neg ht]
  | .array items =>
    rw [count_array] at h
    have hitems : ∀ item ∈ items, replace old new item = item := fun item hitem =>
      item.replaceText_eq_self (count_eq_zero_of_mem h hitem)
    rw [replace_array, replace_eq_self_of_forall hitems]
  | .table entries =>
    rw [count_table] at h
    have hentries : ∀ e ∈ entries, replace old new e = e := by
      intro e he
      have hcount := count_eq_zero_of_mem h he
      exact Prod.ext rfl (e.2.replaceText_eq_self (Nat.add_eq_zero_iff.1 hcount).2)
    rw [replace_table, replace_eq_self_of_forall hentries]
  | .int _ | .float _ | .bool _ | .moment _ => exact Value.replaceText.eq_4 _ _ _ nofun nofun nofun
decreasing_by
  · decreasing_tactic
  · have := sizeOf_snd_lt he
    simp only [Value.table.sizeOf_spec]
    omega

/-! ### Tables under construction -/

variable {key p : String} {v : Value} {path : List String} {es es' : Entries} {node : Node}

theorem update_replace (node : Node) (es : Entries) :
    update key (replace old new node) (replace old new es) =
      replace old new (update key node es) := by
  induction es with
  | nil => rfl
  | cons e es ih =>
    obtain ⟨k, n⟩ := e
    rw [replace_cons, replace_pair, replace_key, update, update]
    split
    · rfl
    · rw [ih, replace_cons, replace_pair, replace_key]

/-- What was behind the key goes out. -/
theorem count_update (h : es.lookup key = some node) (node' : Node) :
    count s (update key node' es) + count s node = count s es + count s node' := by
  induction es with
  | nil => cases h
  | cons e es ih =>
    obtain ⟨k, n⟩ := e
    by_cases hk : k = key
    · subst hk
      obtain rfl := Option.some.inj (List.lookup_cons_self.symm.trans h)
      rw [update, if_pos rfl]
      simp only [count_cons, count_pair, count_key]
      omega
    · rw [List.lookup_cons, beq_false_of_ne (Ne.symm hk)] at h
      have := ih h
      rw [update, if_neg hk]
      simp only [count_cons, count_pair, count_key]
      omega

theorem count_update_table {origin : Origin} {inner : Entries}
    (h : es.lookup p = some (.table origin inner)) (inner' : Entries) :
    count s (update p (.table origin inner') es) + count s inner =
      count s es + count s inner' := by
  simpa only [count_tableNode] using count_update h (.table origin inner')

theorem count_update_tables {items : List Entries} {inner : Entries}
    (h : es.lookup p = some (.tables items)) (hlast : items.getLast? = some inner)
    (inner' : Entries) :
    count s (update p (.tables (items.dropLast ++ [inner'])) es) + count s inner =
      count s es + count s inner' := by
  have hupdate := count_update (s := s) h (.tables (items.dropLast ++ [inner']))
  have hitems := congrArg (count s) (List.dropLast_append_getLast? inner hlast)
  simp only [count_tablesNode, count_append, count_cons, count_nil] at hupdate hitems
  omega

/-- **A value that is put behind a key** goes in once. -/
theorem count_assign (h : assign key v path es = some es') :
    count s es' = count s v + count s es := by
  induction path generalizing es es' with
  | nil =>
    rw [assign] at h
    split at h
    · obtain rfl := Option.some.inj h
      simp [Nat.add_comm]
    · cases h
  | cons p path ih =>
    rw [assign] at h
    split at h
    · obtain ⟨inner, hinner, h⟩ := Option.bind_eq_some_iff.1 h
      obtain rfl := Option.some.inj h
      simp [ih hinner, Nat.add_comm]
    next origin inner hlookup =>
      split at h
      · cases h
      · obtain ⟨inner', hinner, h⟩ := Option.bind_eq_some_iff.1 h
        obtain rfl := Option.some.inj h
        have hupdate := count_update_table (s := s) hlookup inner'
        have := ih hinner
        omega
    next items hlookup =>
      split at h
      next inner hlast =>
        split at h
        · cases h
        · obtain ⟨inner', hinner, h⟩ := Option.bind_eq_some_iff.1 h
          obtain rfl := Option.some.inj h
          have hupdate := count_update_tables (s := s) hlookup hlast inner'
          have := ih hinner
          omega
      next => cases h
    next => cases h

theorem assign_replace :
    assign key (replace old new v) path (replace old new es) =
      (assign key v path es).map (replace old new) := by
  induction path generalizing es with
  | nil =>
    rw [assign, assign, lookup_replace]
    cases es.lookup key with
    | none => simp
    | some _ => rfl
  | cons p path ih =>
    rw [assign, assign, lookup_replace]
    cases es.lookup p with
    | none =>
      have := @ih []
      rw [replace_nil] at this
      simp only [Option.map_none, this]
      cases assign key v path [] <;> simp
    | some node =>
      cases node with
      | value u => simp
      | table origin inner =>
        simp only [Option.map_some, replace_tableNode, ih]
        split
        · rfl
        · cases assign key v path inner <;> simp [← update_replace]
      | tables items =>
        simp only [Option.map_some, replace_tablesNode, getLast?_replace]
        cases items.getLast? with
        | none => rfl
        | some inner =>
          simp only [Option.map_some, ih]
          split
          · rfl
          · cases assign key v path inner <;> simp [← update_replace]

/-- **A change of one table** adds to all of them what it adds to that one. -/
theorem count_changeAt_le {change : Entries → Option Entries} {make : Bool} {k : Nat}
    (hchange : ∀ es es', change es = some es' → count s es' ≤ k + count s es)
    (h : changeAt change make path es = some es') : count s es' ≤ k + count s es := by
  -- Each table on the way to the changed one is put back with a change of the same size.
  induction path generalizing es es' with
  | nil => exact hchange es es' h
  | cons p path ih =>
    rw [changeAt] at h
    split at h
    · split at h
      · obtain ⟨inner, hinner, h⟩ := Option.bind_eq_some_iff.1 h
        obtain rfl := Option.some.inj h
        have := ih hinner
        simp at this ⊢
        omega
      · cases h
    next origin inner hlookup =>
      obtain ⟨inner', hinner, h⟩ := Option.bind_eq_some_iff.1 h
      obtain rfl := Option.some.inj h
      have hupdate := count_update_table (s := s) hlookup inner'
      have := ih hinner
      omega
    next items hlookup =>
      split at h
      next => cases h
      next inner hlast =>
        obtain ⟨inner', hinner, h⟩ := Option.bind_eq_some_iff.1 h
        obtain rfl := Option.some.inj h
        have hupdate := count_update_tables (s := s) hlookup hlast inner'
        have := ih hinner
        omega
    next => cases h

theorem changeAt_replace {change change' : Entries → Option Entries} {make : Bool}
    (hchange : ∀ es, change' (replace old new es) = (change es).map (replace old new)) :
    changeAt change' make path (replace old new es) =
      (changeAt change make path es).map (replace old new) := by
  induction path generalizing es with
  | nil => exact hchange es
  | cons p path ih =>
    rw [changeAt, changeAt, lookup_replace]
    cases es.lookup p with
    | none =>
      have := @ih []
      rw [replace_nil] at this
      simp only [Option.map_none, this]
      split
      · cases changeAt change make path [] <;> simp
      · rfl
    | some node =>
      cases node with
      | value u => simp
      | table origin inner =>
        simp only [Option.map_some, replace_tableNode, ih]
        cases changeAt change make path inner <;> simp [← update_replace]
      | tables items =>
        simp only [Option.map_some, replace_tablesNode, getLast?_replace]
        cases items.getLast? with
        | none => rfl
        | some inner =>
          simp only [Option.map_some, ih]
          cases changeAt change make path inner <;> simp [← update_replace]

/-! ### Headers -/

theorem count_openTable_le (h : openTable path key es = some es') : count s es' ≤ count s es := by
  rw [← Nat.zero_add (count s es)]
  refine count_changeAt_le ?_ h
  intro es es' h
  split at h
  · obtain rfl := Option.some.inj h
    simp
  next inner hlookup =>
    obtain rfl := Option.some.inj h
    have := count_update (s := s) hlookup (.table .header inner)
    simp only [count_tableNode] at this
    omega
  · cases h

theorem openTable_replace :
    openTable path key (replace old new es) = (openTable path key es).map (replace old new) := by
  refine changeAt_replace fun es => ?_
  rw [lookup_replace]
  cases es.lookup key with
  | none => simp
  | some node =>
    cases node with
    | value u => simp
    | table origin inner => cases origin <;> simp [← update_replace]
    | tables items => simp

theorem count_openItem_le (h : openItem path key es = some es') : count s es' ≤ count s es := by
  rw [← Nat.zero_add (count s es)]
  refine count_changeAt_le ?_ h
  intro es es' h
  split at h
  · obtain rfl := Option.some.inj h
    simp
  next items hlookup =>
    obtain rfl := Option.some.inj h
    have := count_update (s := s) hlookup (.tables (items ++ [[]]))
    simp only [count_tablesNode, count_append, count_cons, count_nil] at this
    omega
  · cases h

theorem openItem_replace :
    openItem path key (replace old new es) = (openItem path key es).map (replace old new) := by
  refine changeAt_replace fun es => ?_
  rw [lookup_replace]
  cases es.lookup key with
  | none => simp
  | some node => cases node <;> simp [← update_replace]

/-! ### Finished values -/

mutual

theorem Node.count_finish (s : String) (node : Node) : count s node.finish = count s node := by
  match node with
  | .value v => rw [Node.finish, count_valueNode]
  | .table origin es => rw [Node.finish, count_table, count_tableNode, count_finishEntries]
  | .tables items => rw [Node.finish, count_array, count_tablesNode, count_finishItems]

theorem count_finishEntries (s : String) (es : Entries) :
    count s (finishEntries es) = count s es := by
  match es with
  | [] => rfl
  | (k, node) :: es =>
    rw [finishEntries, count_cons, count_cons, count_pair, count_pair, node.count_finish,
      count_finishEntries]

theorem count_finishItems (s : String) (items : List Entries) :
    count s (finishItems items) = count s items := by
  match items with
  | [] => rfl
  | es :: items =>
    rw [finishItems, count_cons, count_cons, count_table, count_finishEntries, count_finishItems]

end

mutual

theorem Node.finish_replace (old new : String) (node : Node) :
    (replace old new node).finish = replace old new node.finish := by
  match node with
  | .value v => rw [replace_valueNode, Node.finish, Node.finish]
  | .table origin es =>
    rw [replace_tableNode, Node.finish, Node.finish, replace_table, finishEntries_replace]
  | .tables items =>
    rw [replace_tablesNode, Node.finish, Node.finish, replace_array, finishItems_replace]

theorem finishEntries_replace (old new : String) (es : Entries) :
    finishEntries (replace old new es) = replace old new (finishEntries es) := by
  match es with
  | [] => rfl
  | (k, node) :: es =>
    rw [replace_cons, replace_pair, finishEntries, finishEntries, replace_cons, replace_pair,
      node.finish_replace, finishEntries_replace, replace_key]

theorem finishItems_replace (old new : String) (items : List Entries) :
    finishItems (replace old new items) = replace old new (finishItems items) := by
  match items with
  | [] => rfl
  | es :: items =>
    rw [replace_cons, finishItems, finishItems, replace_cons, replace_table,
      finishEntries_replace, finishItems_replace]

end

end Values

end Matchday.Toml
