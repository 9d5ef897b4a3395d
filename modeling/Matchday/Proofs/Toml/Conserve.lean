import Matchday.Toml.Reader
import Matchday.Proofs.Toml.Replace

/-!
# Reading keeps texts apart from the rest

A text among the tokens of a file becomes a value or a key.  No reader makes two values of one text,
and a reader that makes a value of each text does the same to another text in its place: which
values there are, and where, does not depend on what the texts say.  A text that is read as a key
is lost here.

## Main definitions

* `Toml.Conserves`: a reader that multiplies no text, and another one that does the same on tokens
  with a text replaced as long as none is lost.
* `Toml.entries?`: the entries that the tokens of a file say.

## Main results

* `Toml.Conserves.bindAdd`: this is so for one reader after another.
* `Toml.conserves_value`, `Toml.conserves_lines`: it is so for values and for all lines.
* `Toml.entries?_replace`: reading a file with a text replaced.
-/

namespace Matchday.Toml

open HasTexts

variable {α β : Type} [HasTexts α] [HasTexts β] {old new : String} {k : Nat}
  {P P' : Reader α} {ts : List Token}

/-- What `Conserves` says about single tokens. -/
def ConservesAt (old new : String) (k : Nat) (P P' : Reader α) (ts : List Token) : Prop :=
  ∀ a rest, P ts = some (a, rest) →
    count old a + count old rest ≤ k + count old ts ∧
      (count old a + count old rest = k + count old ts →
        P' (replace old new ts) = some (replace old new a, replace old new rest))

/-- A reader that holds `k` copies of a text already does not make more of it, and another reader
does the same on tokens with another text in its place, as long as none gets lost. -/
def Conserves (old new : String) (k : Nat) (P P' : Reader α) : Prop :=
  ∀ ts, ConservesAt old new k P P' ts

/-- A reader that holds nothing at the start. -/
abbrev Keeps (old new : String) (P : Reader α) : Prop :=
  Conserves old new 0 P P

/-! ### Steps -/

namespace Conserves

theorem mono {j : Nat} (h : Conserves old new j P P') (hjk : j ≤ k) :
    Conserves old new k P P' := by
  intro ts a rest hread
  obtain ⟨hle, heq⟩ := h ts a rest hread
  exact ⟨by omega, fun hsum => heq (by omega)⟩

theorem pure {a a' : α} (hle : count old a ≤ k) (ha : replace old new a = a') :
    Conserves old new k (pure a : Reader α) (pure a') := by
  rintro ts _ _ ⟨⟩
  exact ⟨Nat.add_le_add_right hle _, fun _ => by rw [ha]; rfl⟩

/-- **One reader after another**: some copies go through the first one, the others go by it. -/
theorem bindAdd {j : Nat} {F F' : α → Reader β} (hP : Conserves old new j P P')
    (hF : ∀ a, Conserves old new (count old a + k) (F a) (F' (replace old new a))) :
    Conserves old new (j + k) (P >>= F) (P' >>= F') := by
  intro ts b rest hread
  obtain ⟨⟨a, mid⟩, hmid, hrest⟩ := Option.bind_eq_some_iff.1 hread
  obtain ⟨hle, heq⟩ := hP ts a mid hmid
  obtain ⟨hle', heq'⟩ := hF a mid b rest hrest
  refine ⟨by omega, fun hsum => ?_⟩
  -- None is lost in both together, so none is lost in either.
  exact Option.bind_eq_some_iff.2 ⟨_, heq (by omega), heq' (by omega)⟩

/-- The first one holds no copies. -/
theorem bind {F F' : α → Reader β} (hP : Keeps old new P)
    (hF : ∀ a, Conserves old new (count old a + k) (F a) (F' (replace old new a))) :
    Conserves old new k (P >>= F) (P >>= F') :=
  (hP.bindAdd hF).mono (Nat.le_of_eq (Nat.zero_add k))

/-- The first one holds all copies. -/
theorem bindAll {F F' : α → Reader β} (hP : Conserves old new k P P')
    (hF : ∀ a, Conserves old new (count old a) (F a) (F' (replace old new a))) :
    Conserves old new k (P >>= F) (P' >>= F') :=
  hP.bindAdd (k := 0) hF

theorem seq {P : Reader Unit} {Q Q' : Reader β} (hP : Keeps old new P)
    (hQ : Conserves old new k Q Q') :
    Conserves old new k (P >>= fun _ => Q) (P >>= fun _ => Q') :=
  hP.bind fun _ => hQ.mono (Nat.le_add_left _ _)

theorem lift {o o' : Option α} (hle : ∀ a, o = some a → count old a ≤ k)
    (ho : o' = o.map (replace old new)) :
    Conserves old new k (StateT.lift o) (StateT.lift o') := by
  intro ts a rest hread
  obtain ⟨b, hb, hread⟩ := Option.bind_eq_some_iff.1 hread
  obtain ⟨rfl, rfl⟩ := Prod.mk.inj (Option.some.inj hread)
  refine ⟨Nat.add_le_add_right (hle b hb) _, fun _ => ?_⟩
  rw [ho, hb]
  rfl

theorem peek {F F' : Option Token → Reader β}
    (h : ∀ ts, ConservesAt old new k (F ts.head?) (F' (ts.head?.map (replace old new))) ts) :
    Conserves old new k (peek? >>= F) (peek? >>= F') := by
  intro ts b rest hread
  obtain ⟨hle, heq⟩ := h ts b rest hread
  refine ⟨hle, fun hsum => ?_⟩
  have hread' := heq hsum
  rw [← head?_replace] at hread'
  exact hread'

/-- A mark stays as it is, and nothing else becomes one. -/
theorem map_replace_eq_some_iff {u : Option Token} {t : Token}
    (ht : ∀ s isMultiline, t ≠ .text s isMultiline) :
    u.map (replace old new) = some t ↔ u = some t := by
  cases u with
  | none => simp
  | some t' =>
    cases t' with
    | text s isMultiline =>
      refine iff_of_false ?_ ?_
      · exact fun h => ht _ _ (Option.some.inj h).symm
      · exact fun h => ht _ _ (Option.some.inj h).symm
    | _ => exact Iff.rfl

theorem ifPeek {t : Token} {A A' B B' : Reader β} (ht : ∀ s isMultiline, t ≠ .text s isMultiline)
    (hA : Conserves old new k A A') (hB : Conserves old new k B B') :
    Conserves old new k (peek? >>= fun u => if u = some t then A else B)
      (peek? >>= fun u => if u = some t then A' else B') := by
  refine peek fun ts => ?_
  simp only [map_replace_eq_some_iff ht]
  split
  · exact hA ts
  · exact hB ts

theorem getTokens {F F' : List Token → Reader β}
    (h : ∀ ts ts', ts'.length = ts.length → Conserves old new k (F ts) (F' ts')) :
    Conserves old new k (get >>= F) (get >>= F') := by
  intro ts b rest hread
  exact h ts (replace old new ts) (length_replace ts) ts b rest hread

end Conserves

/-! ### Blanks, marks and keys -/

theorem isBlank_replace (t : Token) : (replace old new t).isBlank = t.isBlank := by
  cases t <;> rfl

theorem replace_beq_newline (t : Token) : (replace old new t == .newline) = (t == .newline) := by
  cases t <;> rfl

theorem count_sublist_le {as bs : List α} (h : as.Sublist bs) : count old as ≤ count old bs := by
  induction h with
  | slnil => exact Nat.le_refl _
  | cons b _ ih =>
    rw [count_cons]
    omega
  | cons_cons b _ ih =>
    rw [count_cons, count_cons]
    omega

theorem dropWhile_replace {p : Token → Bool} (hp : ∀ t, p (replace old new t) = p t)
    (ts : List Token) : (replace old new ts).dropWhile p = replace old new (ts.dropWhile p) := by
  induction ts with
  | nil => rfl
  | cons t ts ih =>
    rw [replace_cons, List.dropWhile_cons, List.dropWhile_cons, hp, ih]
    split
    · rfl
    · rfl

theorem conserves_dropWhile {p : Token → Bool} (hp : ∀ t, p (replace old new t) = p t) :
    Keeps old new (fun ts => some ((), ts.dropWhile p) : Reader Unit) := by
  rintro ts _ _ ⟨⟩
  have hle : count old (ts.dropWhile p) ≤ count old ts :=
    count_sublist_le (List.dropWhile_sublist p)
  refine ⟨by simpa using hle, fun _ => ?_⟩
  dsimp only
  rw [dropWhile_replace hp, replace_unit]

theorem conserves_skipBlanks : Keeps old new skipBlanks :=
  conserves_dropWhile isBlank_replace

theorem conserves_skipLines : Keeps old new skipLines :=
  conserves_dropWhile fun t => by rw [isBlank_replace, replace_beq_newline]

theorem conserves_skip : Keeps old new skip := by
  rintro ts _ _ ⟨⟩
  have hle : count old ts.tail ≤ count old ts := count_sublist_le ts.tail_sublist
  refine ⟨by simpa using hle, fun _ => ?_⟩
  rw [skip, tail_replace]

theorem conserves_expect {t : Token} (ht : ∀ s isMultiline, t ≠ .text s isMultiline) :
    Keeps old new (expect t) := by
  intro ts u rest hread
  cases ts with
  | nil => cases hread
  | cons t' ts =>
    rw [expect, Option.ite_none_right_eq_some] at hread
    obtain ⟨rfl, hread⟩ := hread
    obtain ⟨rfl, rfl⟩ := Prod.mk.inj (Option.some.inj hread)
    have hsame : (some t').map (replace old new) = some t' :=
      (Conserves.map_replace_eq_some_iff ht).2 rfl
    rw [Option.map_some] at hsame
    refine ⟨by simp, fun _ => ?_⟩
    rw [replace_cons, Option.some.inj hsame, expect, if_pos rfl]

/-- **A text that is read as a key** is lost. -/
theorem conserves_simpleKey : Keeps old new simpleKey := by
  intro ts key rest hread
  unfold simpleKey at hread
  split at hread
  next cs ts =>
    split at hread
    next hbare =>
      obtain ⟨rfl, rfl⟩ := Prod.mk.inj (Option.some.inj hread)
      refine ⟨by simp, fun _ => ?_⟩
      exact if_pos hbare
    next => cases hread
  next s ts =>
    obtain ⟨rfl, rfl⟩ := Prod.mk.inj (Option.some.inj hread)
    rw [count_cons, count_textToken, count_key]
    refine ⟨by omega, fun hsum => ?_⟩
    -- The text was counted before, the key is not, so it is another text.
    have hs : s ≠ old := by
      rintro rfl
      simp at hsum
    rw [replace_cons, replace_textToken, if_neg hs]
    rfl
  next => cases hread

theorem conserves_moreKeys (fuel : Nat) : Keeps old new (moreKeys fuel) := by
  induction fuel with
  | zero => exact .pure (Nat.le_refl _) rfl
  | succ fuel ih =>
    refine .seq conserves_skipBlanks (.ifPeek nofun ?_ (.pure (Nat.le_refl _) rfl))
    refine .seq conserves_skip (.seq conserves_skipBlanks ?_)
    exact .bind conserves_simpleKey fun key => .bind ih fun more => .pure (by simp) rfl

theorem conserves_dottedKey : Keeps old new dottedKey := by
  refine .seq conserves_skipBlanks (.bind conserves_simpleKey fun first => .getTokens ?_)
  intro ts ts' hlen
  rw [hlen]
  refine .bind (conserves_moreKeys _) fun more => ?_
  rw [replace_keys, replace_key]
  cases more.getLast? with
  | none => exact .pure (by simp) (by simp)
  | some last => exact .pure (by simp) (by simp)

/-! ### Values -/

/-- Words have no text in them. -/
theorem count_scalar? {cs : List Char} {v : Value} (h : scalar? cs = some v) : count old v = 0 := by
  rw [scalar?] at h
  repeat' split at h
  case h_2 =>
    obtain ⟨x, -, rfl⟩ := Option.map_eq_some_iff.1 h
    exact count_float x
  all_goals
    obtain rfl := Option.some.inj h
    simp

theorem joinWords_replace (ts : List Token) :
    joinWords (replace old new ts) = ((joinWords ts).1, replace old new (joinWords ts).2) := by
  induction ts with
  | nil => rfl
  | cons t ts ih => cases t <;> simp [joinWords, replace, Token.replaceText] at ih ⊢ <;> simp [ih]

theorem joinWords_suffix (ts : List Token) : (joinWords ts).2 <:+ ts := by
  induction ts with
  | nil => exact List.suffix_rfl
  | cons t ts ih =>
    cases t with
    | word cs => exact ih.trans (List.suffix_cons _ _)
    | dot => exact ih.trans (List.suffix_cons _ _)
    | _ => exact List.suffix_rfl

theorem eq_space_cons_of_replace {ts rest : List Token}
    (h : replace old new ts = .blank [' '] :: rest) :
    ∃ rest', ts = .blank [' '] :: rest' ∧ rest = replace old new rest' := by
  cases ts with
  | nil => cases h
  | cons t ts =>
    obtain ⟨ht, rfl⟩ := List.cons.inj h
    cases t <;> cases ht
    exact ⟨ts, rfl, rfl⟩

/-- What words say does not depend on texts. -/
theorem scalar_replace (ts : List Token) :
    scalar (replace old new ts) = (scalar ts).map fun r => (r.1, replace old new r.2) := by
  unfold scalar
  rw [joinWords_replace]
  obtain ⟨cs, after⟩ := joinWords ts
  dsimp only
  split
  next rest hblank =>
    obtain ⟨rest, rfl, rfl⟩ := eq_space_cons_of_replace hblank
    have hspace : replace old new (Token.blank [' ']) = .blank [' '] := rfl
    simp only [joinWords_replace]
    split
    next =>
      simp only [Option.map_map]
      rfl
    next =>
      simp only [Option.map_map]
      rw [replace_cons, hspace]
      rfl
  next hblank =>
    split
    next rest => exact absurd rfl (hblank _)
    next => rw [Option.map_map]; rfl

theorem scalar_suffix {v : Value} {rest : List Token} (h : scalar ts = some (v, rest)) :
    rest <:+ ts ∧ ∃ cs, scalar? cs = some v := by
  unfold scalar at h
  have hsuffix := joinWords_suffix ts
  dsimp only at h
  split at h
  next rest' hblank =>
    have hsuffix' : (joinWords rest').2 <:+ ts :=
      (joinWords_suffix rest').trans ((List.suffix_cons _ _).trans (hblank ▸ hsuffix))
    split at h
    · obtain ⟨_, hv, heq⟩ := Option.map_eq_some_iff.1 h
      obtain ⟨rfl, rfl⟩ := Prod.mk.inj heq
      exact ⟨hsuffix', _, hv⟩
    · obtain ⟨_, hv, heq⟩ := Option.map_eq_some_iff.1 h
      obtain ⟨rfl, rfl⟩ := Prod.mk.inj heq
      exact ⟨hsuffix, _, hv⟩
  next =>
    obtain ⟨_, hv, heq⟩ := Option.map_eq_some_iff.1 h
    obtain ⟨rfl, rfl⟩ := Prod.mk.inj heq
    exact ⟨hsuffix, _, hv⟩

theorem conserves_scalar : Keeps old new scalar := by
  intro ts v rest hread
  obtain ⟨hsuffix, cs, hv⟩ := scalar_suffix hread
  have hcount : count old v = 0 := count_scalar? hv
  have hle : count old rest ≤ count old ts := count_sublist_le hsuffix.sublist
  refine ⟨by omega, fun _ => ?_⟩
  rw [scalar_replace, hread, v.replaceText_eq_self hcount]
  rfl

theorem conserves_arrayItems {item : Reader Value} (hitem : Keeps old new item)
    (fuel : Nat) : Keeps old new (arrayItems item fuel) := by
  induction fuel with
  | zero => exact fun _ _ _ h => nomatch h
  | succ fuel ih =>
    refine .seq conserves_skipLines (.ifPeek nofun ?_ ?_)
    · exact .seq conserves_skip (.pure (Nat.le_refl _) rfl)
    · refine .bind hitem fun v => .seq conserves_skipLines (.ifPeek nofun ?_ ?_)
      · refine .seq conserves_skip (.bind ih fun vs => .pure ?_ rfl)
        simp [Nat.add_comm]
      · exact .seq (conserves_expect nofun) (.pure (by simp) rfl)

/-- A table in braces takes in the texts of its values. -/
theorem conserves_braceEntries {item : Reader Value} (hitem : Keeps old new item)
    (fuel : Nat) (es : Entries) :
    Conserves old new (count old es) (braceEntries item fuel es)
      (braceEntries item fuel (replace old new es)) := by
  -- The entries that are read already count for the reader of the others.
  induction fuel generalizing es with
  | zero => exact fun _ _ _ h => nomatch h
  | succ fuel ih =>
    refine .seq conserves_skipLines (.ifPeek nofun ?_ ?_)
    · exact .seq conserves_skip (.pure (Nat.le_refl _) rfl)
    · refine .bind conserves_dottedKey fun ⟨path, key⟩ => ?_
      rw [replace_pair, replace_keys, replace_key]
      refine .seq conserves_skipBlanks (.seq (conserves_expect nofun) (.bind hitem fun v => ?_))
      refine .bindAll (.lift (fun es' h => ?_) assign_replace) fun es' => ?_
      · rw [count_assign h]
        simp
      · refine .seq conserves_skipLines (.ifPeek nofun ?_ ?_)
        · exact .seq conserves_skip (ih es')
        · exact .seq (conserves_expect nofun) (.pure (Nat.le_refl _) rfl)

/-- **A text that is read as a value** is kept. -/
theorem conservesAt_text (s : String) (isMultiline : Bool) (ts : List Token) :
    ConservesAt old new 0 (do skip; return .text s : Reader Value)
      (do skip; return .text (if s = old then new else s)) (.text s isMultiline :: ts) := by
  rintro _ _ ⟨⟩
  refine ⟨?_, fun _ => ?_⟩
  · rw [count_cons, count_textToken, count_text, Nat.zero_add]
    exact Nat.le_refl _
  · rw [replace_text]
    rfl

/-- The front of the tokens decides how a value is read. -/
theorem conserves_value (depth : Nat) : Keeps old new (value depth) := by
  induction depth with
  | zero =>
    refine .seq conserves_skipBlanks (.peek fun ts => ?_)
    cases ts with
    | nil => exact conserves_scalar []
    | cons t ts =>
      cases t with
      | text s isMultiline => exact conservesAt_text s isMultiline ts
      | _ => exact conserves_scalar _
  | succ depth ih =>
    have harray : Keeps old new
        (do skip; return .array (← arrayItems (value depth) (← get).length) : Reader Value) := by
      refine .seq conserves_skip (.getTokens fun ts ts' hlen => ?_)
      rw [hlen]
      exact .bind (conserves_arrayItems ih _) fun items => .pure (by simp) (by simp)
    have htable : Keeps old new
        (do skip; return .table (finishEntries (← braceEntries (value depth) (← get).length [])) :
          Reader Value) := by
      refine .seq conserves_skip (.getTokens fun ts ts' hlen => ?_)
      rw [hlen]
      refine .bind (conserves_braceEntries ih _ []) fun es => .pure ?_ ?_
      · simp [count_finishEntries]
      · simp [finishEntries_replace]
    refine .seq conserves_skipBlanks (.peek fun ts => ?_)
    cases ts with
    | nil => exact conserves_scalar []
    | cons t ts =>
      cases t with
      | text s isMultiline => exact conservesAt_text s isMultiline ts
      | openBracket => exact harray _
      | openBrace => exact htable _
      | _ => exact conserves_scalar _

/-! ### Lines -/

theorem conserves_headerLine : Keeps old new headerLine := by
  have hname (isItem : Bool) : Keeps old new
      (dottedKey >>= fun name => do
        skipBlanks
        expect .closeBracket
        if isItem then expect .closeBracket
        return (isItem, name) : Reader (Bool × List String × String)) := by
    refine .bind conserves_dottedKey fun ⟨path, key⟩ => ?_
    rw [replace_pair, replace_keys, replace_key]
    refine .seq conserves_skipBlanks (.seq (conserves_expect nofun) ?_)
    have hend : Keeps old new (pure (isItem, path, key) : Reader (Bool × List String × String)) :=
      .pure (by simp) (by simp)
    cases isItem with
    | false => exact hend.mono (Nat.zero_le _)
    | true => exact .seq (conserves_expect nofun) (hend.mono (Nat.zero_le _))
  refine .seq (conserves_expect nofun) (.peek fun ts => ?_)
  have hitem : (ts.head?.map (replace old new) == some .openBracket) =
      (ts.head? == some .openBracket) := by
    rw [Bool.eq_iff_iff, beq_iff_eq, beq_iff_eq,
      Conserves.map_replace_eq_some_iff (t := .openBracket) nofun]
  rw [hitem]
  cases ts.head? == some .openBracket with
  | false => exact hname false ts
  | true => exact Conserves.seq conserves_skip (hname true) ts

theorem conserves_keyLine : Keeps old new keyLine := by
  refine .bind conserves_dottedKey fun ⟨path, key⟩ => ?_
  rw [replace_pair, replace_keys, replace_key]
  refine .seq conserves_skipBlanks (.seq (conserves_expect nofun) ?_)
  exact .bind (conserves_value _) fun v => .pure (by simp) (by simp)

theorem conserves_lineEnd : Keeps old new lineEnd := by
  refine .seq conserves_skipBlanks (.peek fun ts => ?_)
  cases ts with
  | nil => exact Conserves.pure (Nat.le_refl _) rfl []
  | cons t ts => exact conserves_expect (t := .newline) nofun _

/-- **The lines of a file** make no more of a text than there is of it.  What is read already is
in the tables. -/
theorem conserves_lines (fuel : Nat) (header : List String) (root : Entries) :
    Conserves old new (count old root) (lines fuel header root)
      (lines fuel header (replace old new root)) := by
  induction fuel generalizing header root with
  | zero => exact .pure (Nat.le_refl _) rfl
  | succ fuel ih =>
    have hheader : Conserves old new (count old root)
        (headerLine >>= fun h => do
          lineEnd
          let root ← StateT.lift ((if h.1 then openItem else openTable) h.2.1 h.2.2 root)
          lines fuel (h.2.1 ++ [h.2.2]) root)
        (headerLine >>= fun h => do
          lineEnd
          let root ← StateT.lift
            ((if h.1 then openItem else openTable) h.2.1 h.2.2 (replace old new root))
          lines fuel (h.2.1 ++ [h.2.2]) root) := by
      refine .bind conserves_headerLine fun ⟨isItem, path, key⟩ => ?_
      rw [replace_pair, replace_bool, replace_pair, replace_keys, replace_key]
      refine .seq conserves_lineEnd (.bindAll (.lift ?_ ?_) fun root => ih _ root)
      · intro es' h
        cases isItem with
        | false => exact Nat.le_trans (count_openTable_le h) (Nat.le_add_left _ _)
        | true => exact Nat.le_trans (count_openItem_le h) (Nat.le_add_left _ _)
      · cases isItem with
        | false => exact openTable_replace
        | true => exact openItem_replace
    have hkey : Conserves old new (count old root)
        (keyLine >>= fun e => do
          lineEnd
          let root ← StateT.lift (assignBelow header e.1 e.2.1 e.2.2 root)
          lines fuel header root)
        (keyLine >>= fun e => do
          lineEnd
          let root ← StateT.lift (assignBelow header e.1 e.2.1 e.2.2 (replace old new root))
          lines fuel header root) := by
      refine .bind conserves_keyLine fun ⟨path, key, v⟩ => ?_
      rw [replace_pair, replace_pair, replace_keys, replace_key]
      refine .seq conserves_lineEnd (.bindAll (.lift ?_ ?_) fun root => ih _ root)
      · intro es' h
        simpa using count_changeAt_le (fun es es' h => Nat.le_of_eq (count_assign h)) h
      · exact changeAt_replace fun es => assign_replace
    refine .seq conserves_skipLines (.peek fun ts => ?_)
    cases ts with
    | nil => exact Conserves.pure (Nat.le_refl _) rfl []
    | cons t ts =>
      cases t with
      | openBracket => exact hheader _
      | _ => exact hkey _

/-- The entries that the tokens of a file say. -/
def entries? (ts : List Token) : Option (List (String × Value)) :=
  (lines (ts.length + 1) [] [] ts).map fun (root, _) => finishEntries root

theorem read?_eq_bind_entries? (s : String) : read? s = (tokens? s).bind entries? := by
  rw [read?]
  refine Option.bind_congr fun ts _ => ?_
  rw [entries?, Option.map_eq_bind]
  rfl

/-- **Reading a file with a text replaced**: a file says no text more often than it is among its
tokens, and when none is lost, another text in its place is said in its place. -/
theorem entries?_replace (old new : String) {es : List (String × Value)}
    (h : entries? ts = some es) :
    count old es ≤ count old ts ∧
      (count old es = count old ts →
        entries? (replace old new ts) = some (replace old new es)) := by
  obtain ⟨⟨root, rest⟩, hlines, rfl⟩ := Option.map_eq_some_iff.1 h
  have hconserves : Conserves old new (count old ([] : Entries)) (lines (ts.length + 1) [] [])
      (lines (ts.length + 1) [] (replace old new [])) := conserves_lines _ _ _
  obtain ⟨hle, heq⟩ := hconserves ts root rest hlines
  rw [count_nil, Nat.zero_add] at hle heq
  dsimp only
  rw [count_finishEntries]
  refine ⟨by omega, fun hsame => ?_⟩
  have hlines' := heq (by omega)
  rw [replace_nil] at hlines'
  rw [entries?, length_replace, hlines', Option.map_some]
  dsimp only
  rw [finishEntries_replace]

end Matchday.Toml
