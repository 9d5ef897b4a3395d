import Matchday.Storage.Path
import Matchday.Proofs.Text.Blank
import Mathlib.Data.List.Basic

/-!
# Pieces of paths

A path is the same as the list of its pieces.  A path all of whose pieces are names leads from a
folder to something inside it.

## Main definitions

* `Path.IsName`: a piece that names an entry of a folder.
* `Path.IsPlain`: a path all of whose pieces are names.
* `Path.Extends`: a path that goes on from another one by names.

## Main results

* `Path.intercalate_pieces`, `Path.pieces_intercalate`: a path from its pieces, and its pieces
  again.
* `Path.pieces_append_slash_append`: the pieces of two paths with a slash between them.
* `Path.extends_join`: a joined path goes on from the folder.
* `Path.Extends.parent`: the parent of a path that goes on by names goes on by all of them but the
  last.
-/

namespace Matchday.Path

/-! ### Splitting -/

theorem splitPieces_ne_nil (cs : List Char) : splitPieces cs ≠ [] := by
  cases cs with
  | nil => simp [splitPieces]
  | cons c cs =>
    rw [splitPieces]
    split
    · simp
    · split <;> simp

theorem splitPieces_of_notMem {cs : List Char} (h : '/' ∉ cs) : splitPieces cs = [cs] := by
  induction cs with
  | nil => rfl
  | cons c cs ih =>
    rw [List.mem_cons, not_or] at h
    rw [splitPieces, if_neg (Ne.symm h.1), ih h.2]

theorem splitPieces_append_slash (cs ds : List Char) :
    splitPieces (cs ++ '/' :: ds) = splitPieces cs ++ splitPieces ds := by
  induction cs with
  | nil => rfl
  | cons c cs ih =>
    rw [List.cons_append, splitPieces, splitPieces, ih]
    split
    · rfl
    · cases hcs : splitPieces cs with
      | nil => exact absurd hcs (splitPieces_ne_nil cs)
      | cons piece rest => rfl

theorem slash_notMem_of_mem_splitPieces {cs piece : List Char} (h : piece ∈ splitPieces cs) :
    '/' ∉ piece := by
  induction cs generalizing piece with
  | nil => rw [splitPieces, List.mem_singleton] at h; simp [h]
  | cons c cs ih =>
    rw [splitPieces] at h
    split at h
    · rcases List.mem_cons.1 h with rfl | h
      · simp
      · exact ih h
    next hc =>
      cases hcs : splitPieces cs with
      | nil => exact absurd hcs (splitPieces_ne_nil cs)
      | cons first rest =>
        rw [hcs] at h ih
        rcases List.mem_cons.1 h with rfl | h
        · rw [List.mem_cons, not_or]
          exact ⟨Ne.symm hc, ih List.mem_cons_self⟩
        · exact ih (List.mem_cons_of_mem _ h)

/-! ### Pieces -/

theorem pieces_ne_nil (path : String) : pieces path ≠ [] := by
  rw [pieces, Ne, List.map_eq_nil_iff]
  exact splitPieces_ne_nil _

theorem pieces_of_notMem {piece : String} (h : '/' ∉ piece.toList) : pieces piece = [piece] := by
  rw [pieces, splitPieces_of_notMem h, List.map_singleton, String.ofList_toList]

/-- **A slash divides the pieces** in front of it from those behind it. -/
theorem pieces_append_slash_append (a b : String) :
    pieces (a ++ "/" ++ b) = pieces a ++ pieces b := by
  have hsplit : (a ++ "/" ++ b).toList = a.toList ++ '/' :: b.toList := by
    rw [String.toList_append, String.toList_append, List.append_assoc]
    rfl
  rw [pieces, hsplit, splitPieces_append_slash, List.map_append, pieces, pieces]

theorem slash_notMem_of_mem_pieces {path piece : String} (h : piece ∈ pieces path) :
    '/' ∉ piece.toList := by
  obtain ⟨cs, hcs, rfl⟩ := List.mem_map.1 h
  rw [String.toList_ofList]
  exact slash_notMem_of_mem_splitPieces hcs

/-- The pieces of texts without slashes that are put together are these texts. -/
theorem pieces_intercalate {ps : List String} (hne : ps ≠ []) (h : ∀ p ∈ ps, '/' ∉ p.toList) :
    pieces ("/".intercalate ps) = ps := by
  induction ps with
  | nil => contradiction
  | cons p ps ih =>
    rw [List.forall_mem_cons] at h
    cases ps with
    | nil => rw [String.intercalate_singleton, pieces_of_notMem h.1]
    | cons q ps =>
      rw [String.intercalate_cons_cons, pieces_append_slash_append, pieces_of_notMem h.1,
        ih (List.cons_ne_nil q ps) h.2, List.singleton_append]

theorem intercalate_append {ps qs : List String} (hp : ps ≠ []) (hq : qs ≠ []) :
    "/".intercalate (ps ++ qs) = "/".intercalate ps ++ "/" ++ "/".intercalate qs := by
  induction ps with
  | nil => contradiction
  | cons p ps ih =>
    cases ps with
    | nil =>
      obtain ⟨q, qs, rfl⟩ := List.exists_cons_of_ne_nil hq
      rw [List.singleton_append, String.intercalate_cons_cons, String.intercalate_singleton]
    | cons p' ps =>
      rw [List.cons_append, List.cons_append, String.intercalate_cons_cons, ← List.cons_append,
        ih (List.cons_ne_nil p' ps), String.intercalate_cons_cons]
      simp only [String.append_assoc]

theorem intercalate_cons_append (a b : String) (ps : List String) :
    "/".intercalate ((a ++ b) :: ps) = a ++ "/".intercalate (b :: ps) := by
  cases ps with
  | nil => rw [String.intercalate_singleton, String.intercalate_singleton]
  | cons p ps =>
    rw [String.intercalate_cons_cons, String.intercalate_cons_cons]
    simp only [String.append_assoc]

/-- **A path is its pieces put together.** -/
theorem intercalate_pieces (path : String) : "/".intercalate (pieces path) = path := by
  have hchars (cs : List Char) :
      "/".intercalate ((splitPieces cs).map String.ofList) = String.ofList cs := by
    induction cs with
    | nil => rfl
    | cons c cs ih =>
      have hcons : String.ofList (c :: cs) = String.ofList [c] ++ String.ofList cs := by
        rw [← String.ofList_append, List.singleton_append]
      rw [splitPieces, hcons, ← ih]
      cases hcs : splitPieces cs with
      | nil => exact absurd hcs (splitPieces_ne_nil cs)
      | cons piece rest =>
        rw [List.map_cons]
        split
        next hc =>
          rw [hc, List.map_cons, List.map_cons, String.intercalate_cons_cons, String.empty_append]
        next hc =>
          rw [List.map_cons, ← intercalate_cons_append, ← String.ofList_append,
            List.singleton_append]
  rw [pieces, hchars, String.ofList_toList]

theorem pieces_injective {p q : String} (h : pieces p = pieces q) : p = q := by
  rw [← intercalate_pieces p, h, intercalate_pieces]

theorem length_pieces_le (path : String) : (pieces path).length ≤ path.length + 1 := by
  have hchars (cs : List Char) : (splitPieces cs).length ≤ cs.length + 1 := by
    induction cs with
    | nil => exact Nat.le_refl _
    | cons c cs ih =>
      rw [splitPieces]
      split
      · exact Nat.succ_le_succ ih
      · split
        next hcs => exact absurd hcs (splitPieces_ne_nil cs)
        next piece rest hcs =>
          rw [hcs] at ih
          exact Nat.le_succ_of_le ih
  rw [pieces, List.length_map, ← String.length_toList]
  exact hchars path.toList

/-! ### Plain paths -/

/-- A piece that names an entry of a folder. -/
def IsName (piece : String) : Prop :=
  piece ≠ "" ∧ piece ≠ "." ∧ piece ≠ ".."

/-- A path all of whose pieces are names. -/
def IsPlain (path : String) : Prop :=
  ∀ piece ∈ pieces path, IsName piece

instance (piece : String) : Decidable (IsName piece) :=
  inferInstanceAs (Decidable (_ ∧ _ ∧ _))

instance (path : String) : Decidable (IsPlain path) :=
  inferInstanceAs (Decidable (∀ piece ∈ pieces path, IsName piece))

theorem IsName.isIdle_eq {piece : String} (h : IsName piece) : isIdle piece = false := by
  simp [isIdle, h.1, h.2.1]

theorem isAbsolute_eq_true_iff {path : String} :
    isAbsolute path = true ↔ path.toList.head? = some '/' := by
  rw [isAbsolute, beq_iff_eq]

theorem IsPlain.isAbsolute_eq {path : String} (h : IsPlain path) : isAbsolute path = false := by
  rw [Bool.eq_false_iff, Ne, isAbsolute_eq_true_iff]
  intro hslash
  obtain ⟨cs, hcs⟩ := List.head?_eq_some_iff.1 hslash
  have hempty : "" ∈ pieces path := by
    rw [pieces, hcs, splitPieces, if_pos rfl, List.map_cons]
    exact List.mem_cons_self
  exact (h "" hempty).1 rfl

/-- A beginning of a path begins where the path begins. -/
theorem isAbsolute_of_isPrefix {path path' : String} (h : path.toList <+: path'.toList)
    (hne : path ≠ "") : isAbsolute path = isAbsolute path' := by
  obtain ⟨cs, hcs⟩ := h
  have hnil : path.toList ≠ [] := mt String.toList_eq_nil_iff.1 hne
  rw [isAbsolute, isAbsolute, ← hcs, List.head?_append_of_ne_nil _ hnil]

/-! ### Joined paths and parents -/

/-- The pieces that lead somewhere. -/
def steps (ps : List String) : List String :=
  ps.filter fun p => !isIdle p

/-- A path that goes on from another one by names, up to pieces that lead nowhere. -/
structure Extends (base path : String) (names : List String) : Prop where
  ne_empty : path ≠ ""
  isAbsolute_eq : isAbsolute path = isAbsolute base
  pieces_eq : ∃ lead, lead ≠ [] ∧ steps lead = steps (pieces base) ∧ pieces path = lead ++ names

/-- **The pieces of a joined path** are those of the folder, up to pieces that lead nowhere, and
those of the path. -/
theorem pieces_join {folder path : String} (hfolder : folder ≠ "") (hpath : IsPlain path) :
    folder.toList <+: (join folder path).toList ∧
      ∃ lead, lead ≠ [] ∧ steps lead = steps (pieces folder) ∧
        pieces (join folder path) = lead ++ pieces path := by
  have hempty : folder.isEmpty = false := by rwa [Bool.eq_false_iff, Ne, String.isEmpty_iff]
  rw [join, hpath.isAbsolute_eq, hempty, Bool.or_self, if_neg Bool.false_ne_true]
  split
  next hslash =>
    rw [beq_iff_eq, List.getLast?_eq_some_iff] at hslash
    obtain ⟨outer, houter⟩ := hslash
    have hsplit : folder = String.ofList outer ++ "/" ++ "" := by
      rw [String.append_empty, ← String.ofList_toList (s := folder), houter, String.ofList_append]
    refine ⟨?_, pieces (String.ofList outer), pieces_ne_nil _, ?_, ?_⟩
    · rw [String.toList_append]
      exact List.prefix_append ..
    · rw [hsplit, pieces_append_slash_append, steps, steps, List.filter_append]
      exact (List.append_nil _).symm
    · rw [hsplit, String.append_empty, pieces_append_slash_append]
  next =>
    refine ⟨?_, pieces folder, pieces_ne_nil _, rfl, pieces_append_slash_append ..⟩
    rw [String.toList_append, String.toList_append, List.append_assoc]
    exact List.prefix_append ..

theorem extends_join {folder path : String} (hfolder : folder ≠ "") (hpath : IsPlain path) :
    Extends folder (join folder path) (pieces path) := by
  obtain ⟨hfront, hpieces⟩ := pieces_join hfolder hpath
  refine ⟨fun hempty => ?_, (isAbsolute_of_isPrefix hfront hfolder).symm, hpieces⟩
  rw [hempty] at hfront
  exact hfolder (String.toList_eq_nil_iff.1 (List.prefix_nil.1 hfront))

/-- A sign other than the slash is in a joined path when it is in one of the two. -/
theorem mem_join_iff {folder path : String} {c : Char} (hc : c ≠ '/')
    (hpath : isAbsolute path = false) :
    c ∈ (join folder path).toList ↔ c ∈ folder.toList ∨ c ∈ path.toList := by
  rw [join, hpath, Bool.false_or]
  split
  next hempty =>
    rw [String.isEmpty_iff] at hempty
    rw [hempty, String.toList_empty, or_iff_right List.not_mem_nil]
  next =>
    split
    next => rw [String.toList_append, List.mem_append]
    next =>
      have hslash : c ∉ "/".toList := by simpa using hc
      rw [String.toList_append, String.toList_append, List.mem_append, List.mem_append,
        or_iff_left hslash]

theorem steps_append (ps qs : List String) : steps (ps ++ qs) = steps ps ++ steps qs :=
  List.filter_append ..

theorem trimEnd_concat (ps : List String) {p : String} (h : isIdle p = false) :
    trimEnd (ps ++ [p]) = ps ++ [p] :=
  List.rdropWhile_concat_neg _ _ _ (by rw [h]; exact Bool.false_ne_true)

theorem trimEnd_isPrefix (ps : List String) : trimEnd ps <+: ps :=
  List.rdropWhile_prefix isIdle ps

theorem steps_trimEnd (ps : List String) : steps (trimEnd ps) = steps ps := by
  induction ps using List.reverseRecOn with
  | nil => rfl
  | append_singleton ps p ih =>
    cases hp : isIdle p with
    | true =>
      have hdrop : trimEnd (ps ++ [p]) = trimEnd ps := List.rdropWhile_concat_pos _ _ _ hp
      rw [hdrop, ih, steps_append, steps, steps, List.filter_singleton, hp]
      exact (List.append_nil _).symm
    | false => rw [trimEnd_concat ps hp]

theorem intercalate_isPrefix {ps qs : List String} (h : ps <+: qs) :
    ("/".intercalate ps).toList <+: ("/".intercalate qs).toList := by
  obtain ⟨rest, rfl⟩ := h
  by_cases hp : ps = []
  · rw [hp]
    exact List.nil_prefix
  by_cases hrest : rest = []
  · simp [hrest]
  rw [intercalate_append hp hrest, String.append_assoc, String.toList_append]
  exact List.prefix_append ..

/-- The parent of a path that ends in a name. -/
theorem parent?_eq {path first name : String} {rest : List String}
    (h : pieces path = first :: (rest ++ [name])) (hname : isIdle name = false) :
    parent? path = some (if first = "" ∧ trimEnd rest = [] then "/"
      else "/".intercalate (first :: trimEnd rest)) := by
  rw [parent?, h]
  dsimp only
  rw [trimEnd_concat rest hname]
  split
  next hnil => simp at hnil
  next =>
    rw [List.dropLast_concat]
    split
    next hrest =>
      simp only [hrest, String.intercalate_singleton, and_true, String.isEmpty_iff]
    next hrest => rw [if_neg fun h => hrest h.2]

/-- Names at the end of a path are not left out, so only pieces in front of them may be. -/
theorem exists_trimEnd_append_eq (ps : List String) {names : List String}
    (hnames : ∀ n ∈ names, IsName n) :
    ∃ ps', trimEnd (ps ++ names) = ps' ++ names ∧ steps ps' = steps ps := by
  rcases List.eq_nil_or_concat names with rfl | ⟨outer, n, rfl⟩
  · exact ⟨trimEnd ps, by rw [List.append_nil, List.append_nil], steps_trimEnd ps⟩
  · rw [List.concat_eq_append] at hnames ⊢
    refine ⟨ps, ?_, rfl⟩
    rw [← List.append_assoc]
    exact trimEnd_concat _ (hnames n (List.mem_append_right _ List.mem_cons_self)).isIdle_eq

/-- **The parent of a path that ends in names** is the path without the last name, up to pieces
that lead nowhere. -/
theorem exists_parent?_eq {path name : String} {lead names : List String}
    (h : pieces path = lead ++ (names ++ [name])) (hlead : lead ≠ [])
    (hnames : ∀ n ∈ names ++ [name], IsName n) :
    ∃ parent, parent? path = some parent ∧ parent ≠ "" ∧ parent.toList <+: path.toList ∧
      ∃ lead', lead' ≠ [] ∧ steps lead' = steps lead ∧ pieces parent = lead' ++ names := by
  obtain ⟨first, rest, rfl⟩ := List.exists_cons_of_ne_nil hlead
  rw [List.forall_mem_append, List.forall_mem_singleton] at hnames
  have hpieces : pieces path = first :: (rest ++ names ++ [name]) := by
    rw [h, List.cons_append, List.append_assoc]
  obtain ⟨rest', htrim, hsteps⟩ := exists_trimEnd_append_eq rest hnames.1
  have hfront : first :: (rest' ++ names) <+: pieces path := by
    rw [hpieces, List.prefix_cons_inj, ← htrim]
    exact (trimEnd_isPrefix _).trans (List.prefix_append _ _)
  have hprefixes : ("/".intercalate (first :: (rest' ++ names))).toList <+: path.toList := by
    rw [← intercalate_pieces path]
    exact intercalate_isPrefix hfront
  have hlead' : steps (first :: rest') = steps (first :: rest) := by
    rw [← List.singleton_append, steps_append, hsteps, ← steps_append, List.singleton_append]
  rw [parent?_eq hpieces hnames.2.isIdle_eq, htrim]
  split
  next hroot =>
    obtain ⟨rfl, rfl⟩ := List.append_eq_nil_iff.1 hroot.2
    obtain ⟨rfl, -⟩ := hroot
    refine ⟨"/", rfl, by decide, ?_, ["", ""], List.cons_ne_nil _ _, ?_, by decide⟩
    · obtain ⟨p, ps, hps⟩ := List.exists_cons_of_ne_nil
        (List.append_ne_nil_of_right_ne_nil (rest ++ []) (List.cons_ne_nil name []))
      rw [← intercalate_pieces path, hpieces, hps, String.intercalate_cons_cons,
        String.empty_append, String.toList_append]
      exact List.prefix_append ..
    · exact hlead'
  next hroot =>
    have hparent : pieces ("/".intercalate (first :: (rest' ++ names))) =
        first :: (rest' ++ names) :=
      pieces_intercalate (List.cons_ne_nil _ _) fun p hp =>
        slash_notMem_of_mem_pieces (hfront.subset hp)
    refine ⟨_, rfl, fun hempty => ?_, hprefixes, first :: rest', List.cons_ne_nil _ _, hlead',
      hparent⟩
    rw [hempty] at hparent
    have hfirst : [""] = first :: (rest' ++ names) := hparent
    rw [List.cons.injEq] at hfirst
    exact hroot ⟨hfirst.1.symm, hfirst.2.symm⟩

theorem Extends.parent {base path name : String} {names : List String}
    (h : Extends base path (names ++ [name])) (hnames : ∀ n ∈ names ++ [name], IsName n) :
    ∃ parent, parent? path = some parent ∧ Extends base parent names := by
  obtain ⟨lead, hlead, hsteps, hpieces⟩ := h.pieces_eq
  obtain ⟨parent, hparent, hne, hfront, lead', hlead', hsteps', hpieces'⟩ :=
    exists_parent?_eq hpieces hlead hnames
  exact ⟨parent, hparent, hne, (isAbsolute_of_isPrefix hfront hne).trans h.isAbsolute_eq, lead',
    hlead', hsteps'.trans hsteps, hpieces'⟩

end Matchday.Path
