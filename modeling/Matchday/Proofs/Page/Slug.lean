import Matchday.Page.Slug
import Matchday.Proofs.Storage.Path
import Matchday.Proofs.Text.Lowered

/-!
# Signs in slugs

No sign but the hyphen is added to a name or taken from it when its slug is made.  So a slash in a
name is one in its slug, and what stands between two slashes becomes a slug on its own.  A slug has
no capital letters left, so its own slug is the same.

## Main results

* `mem_slug_iff`: a sign other than the hyphen is in a slug exactly when it is in the name.
* `slug_eq_empty_iff`: only the empty name has an empty slug.
* `pieces_slug`: the pieces of a slug are the slugs of the pieces.
* `isPlain_slug_iff`: a slug is a plain path exactly when the name is one.
* `trimOf_slug`: the slashes at both ends of a slug are those of the name.
* `slug_slug`: a slug is lowercase and is its own slug.
-/

namespace Matchday

theorem mem_hyphenate_iff {afterLower : Bool} {cs : List Char} {d : Char} (hd : d ≠ '-') :
    d ∈ hyphenate afterLower cs ↔ d ∈ cs := by
  induction cs generalizing afterLower with
  | nil => rfl
  | cons c cs ih =>
    rw [hyphenate]
    split
    · rw [List.mem_cons, List.mem_cons, ih, List.mem_cons, or_iff_right hd]
    · rw [List.mem_cons, ih, List.mem_cons]

theorem hyphenate_eq_nil_iff {afterLower : Bool} {cs : List Char} :
    hyphenate afterLower cs = [] ↔ cs = [] := by
  cases cs with
  | nil => rfl
  | cons c cs =>
    rw [hyphenate]
    split <;> simp

/-- **Signs come through.**  No sign but the hyphen is added to a name or taken from it when its
slug is made. -/
theorem mem_slug_iff {name : String} {d : Char} (hsign : d.toNat < 65) (hd : d ≠ '-') :
    d ∈ (slug name).toList ↔ d ∈ name.toList := by
  rw [slug, String.toList_ofList, Text.mem_lowerChars_iff hsign, mem_hyphenate_iff hd]

theorem slug_eq_empty_iff {name : String} : slug name = "" ↔ name = "" := by
  rw [← String.toList_eq_nil_iff, slug, String.toList_ofList, Text.lowerChars_eq_nil_iff,
    hyphenate_eq_nil_iff, String.toList_eq_nil_iff]

/-! ### Pieces of slugs -/

theorem hyphenate_append_slash (afterLower : Bool) (cs ds : List Char) :
    hyphenate afterLower (cs ++ '/' :: ds) =
      hyphenate afterLower cs ++ '/' :: hyphenate false ds := by
  induction cs generalizing afterLower with
  | nil => simp [hyphenate]
  | cons c cs ih =>
    rw [List.cons_append, hyphenate, hyphenate, ih]
    split <;> rfl

theorem slug_append_slash_append (a b : String) :
    slug (a ++ "/" ++ b) = slug a ++ "/" ++ slug b := by
  have hsplit : (a ++ "/" ++ b).toList = a.toList ++ '/' :: b.toList := by
    rw [String.toList_append, String.toList_append, List.append_assoc]
    rfl
  rw [slug, hsplit, hyphenate_append_slash, Text.lowerChars_append_slash, String.ofList_append,
    ← List.singleton_append, String.ofList_append, String.append_assoc]
  rfl

/-- **The pieces of a slug are the slugs of the pieces.** -/
theorem pieces_slug (name : String) : Path.pieces (slug name) = (Path.pieces name).map slug := by
  have hslugs {ps : List String} (hne : ps ≠ []) :
      slug ("/".intercalate ps) = "/".intercalate (ps.map slug) := by
    induction ps with
    | nil => contradiction
    | cons p ps ih =>
      cases ps with
      | nil => rfl
      | cons q ps =>
        rw [String.intercalate_cons_cons, slug_append_slash_append, ih (List.cons_ne_nil q ps),
          List.map_cons, List.map_cons, List.map_cons, String.intercalate_cons_cons]
  have hne := Path.pieces_ne_nil name
  rw [← Path.intercalate_pieces name, hslugs hne, Path.intercalate_pieces]
  refine Path.pieces_intercalate (mt List.map_eq_nil_iff.1 hne) fun p hp => ?_
  obtain ⟨piece, hpiece, rfl⟩ := List.mem_map.1 hp
  rw [mem_slug_iff (by decide) (by decide)]
  exact Path.slash_notMem_of_mem_pieces hpiece

/-- Without capital letters there is nowhere to put a hyphen. -/
theorem hyphenate_eq_self {afterLower : Bool} {cs : List Char} (h : ∀ c ∈ cs, c.isUpper = false) :
    hyphenate afterLower cs = cs := by
  induction cs generalizing afterLower with
  | nil => rfl
  | cons c cs ih =>
    rw [List.forall_mem_cons] at h
    rw [hyphenate, h.1, Bool.and_false, if_neg Bool.false_ne_true, ih h.2]

theorem isUpper_eq_false_of_lt {c : Char} (h : c.toNat < 65) : c.isUpper = false := by
  refine decide_eq_false fun hupper => ?_
  have hfirst : 65 ≤ c.toNat := UInt32.le_iff_toNat_le.1 hupper.1
  omega

/-- A name of signs is its own slug. -/
theorem slug_eq_self {name : String} (h : ∀ c ∈ name.toList, c.toNat < 65) : slug name = name := by
  rw [slug, hyphenate_eq_self fun c hc => isUpper_eq_false_of_lt (h c hc),
    Text.lowerChars_eq_self h, String.ofList_toList]

theorem mem_hyphenate_of_mem {afterLower : Bool} {cs : List Char} {c : Char} (h : c ∈ cs) :
    c ∈ hyphenate afterLower cs := by
  induction cs generalizing afterLower with
  | nil => contradiction
  | cons d cs ih =>
    rw [hyphenate]
    rcases List.mem_cons.1 h with rfl | h
    · split <;> simp
    · split <;> simp [ih h]

/-- A slug of dots comes from the same dots. -/
theorem slug_eq_dots_iff {name dots : String} {n : Nat}
    (h : dots.toList = List.replicate n '.') : slug name = dots ↔ name = dots := by
  have hdots : ∀ c ∈ dots.toList, c = '.' := by
    rw [h]
    exact fun c hc => List.eq_of_mem_replicate hc
  have hsigns {s : String} (h : ∀ c ∈ s.toList, c = '.') : slug s = s :=
    slug_eq_self fun c hc => by rw [h c hc]; decide
  constructor
  · intro h
    rw [← h, slug, String.toList_ofList] at hdots
    have hname : ∀ c ∈ name.toList, c = '.' := fun c hc =>
      Text.forall_eq_of_lowerChars (by decide) hdots c (mem_hyphenate_of_mem hc)
    rw [← h, hsigns hname]
  · rintro rfl
    exact hsigns hdots

theorem isName_slug_iff {name : String} : Path.IsName (slug name) ↔ Path.IsName name := by
  have hdot : slug name = "." ↔ name = "." := slug_eq_dots_iff (n := 1) rfl
  have hdots : slug name = ".." ↔ name = ".." := slug_eq_dots_iff (n := 2) rfl
  rw [Path.IsName, Path.IsName, Ne, Ne, Ne, slug_eq_empty_iff, hdot, hdots]

/-- **A slug is a plain path** exactly when the name is one. -/
theorem isPlain_slug_iff {name : String} : Path.IsPlain (slug name) ↔ Path.IsPlain name := by
  rw [Path.IsPlain, Path.IsPlain, pieces_slug, List.forall_mem_map]
  exact forall₂_congr fun p _ => isName_slug_iff

theorem dropWhile_slash_slug (cs : List Char) :
    (Text.lowerChars false (hyphenate false cs)).dropWhile (· == '/') =
      Text.lowerChars false (hyphenate false (cs.dropWhile (· == '/'))) := by
  induction cs with
  | nil => rfl
  | cons c cs ih =>
    by_cases hc : c = '/'
    · rw [hc, List.dropWhile_cons_of_pos rfl, ← ih, ← List.nil_append ('/' :: cs),
        hyphenate_append_slash, Text.lowerChars_append_slash]
      exact List.dropWhile_cons_of_pos rfl
    · obtain ⟨image, hne, hsigns, hlower⟩ :=
        Text.exists_lowerChars_cons false c (hyphenate c.isLower cs)
      obtain ⟨d, image, rfl⟩ := List.exists_cons_of_ne_nil hne
      have hd : d ≠ '/' := by
        rintro rfl
        exact hc ((hsigns '/' (by decide)).1 List.mem_cons_self).symm
      have hfirst : hyphenate false (c :: cs) = c :: hyphenate c.isLower cs := rfl
      rw [List.dropWhile_cons_of_neg (by simpa using hc), hfirst, hlower, List.cons_append,
        List.dropWhile_cons_of_neg (by simpa using hd)]

theorem exists_hyphenate_concat (afterLower : Bool) (cs : List Char) (c : Char) :
    ∃ outer, hyphenate afterLower (cs ++ [c]) = outer ++ [c] := by
  induction cs generalizing afterLower with
  | nil =>
    rw [List.nil_append, hyphenate]
    split
    · exact ⟨['-'], rfl⟩
    · exact ⟨[], rfl⟩
  | cons b cs ih =>
    obtain ⟨outer, houter⟩ := ih b.isLower
    rw [List.cons_append, hyphenate, houter]
    split
    · exact ⟨'-' :: b :: outer, rfl⟩
    · exact ⟨b :: outer, rfl⟩

theorem rdropWhile_slash_slug (cs : List Char) :
    (Text.lowerChars false (hyphenate false cs)).rdropWhile (· == '/') =
      Text.lowerChars false (hyphenate false (cs.rdropWhile (· == '/'))) := by
  induction cs using List.reverseRecOn with
  | nil => rfl
  | append_singleton cs c ih =>
    by_cases hc : c = '/'
    · rw [hc, List.rdropWhile_concat_pos _ _ _ rfl, ← ih, hyphenate_append_slash,
        Text.lowerChars_append_slash]
      exact List.rdropWhile_concat_pos _ _ _ rfl
    · obtain ⟨outer, houter⟩ := exists_hyphenate_concat false cs c
      obtain ⟨outer', image, hne, hsigns, hlower⟩ := Text.exists_lowerChars_concat false outer c
      obtain ⟨image, d, rfl⟩ := (List.eq_nil_or_concat image).resolve_left hne
      rw [List.concat_eq_append] at hsigns hlower
      have hd : d ≠ '/' := by
        rintro rfl
        refine hc ((hsigns '/' (by decide)).1 ?_).symm
        exact List.mem_append_right _ List.mem_cons_self
      rw [List.rdropWhile_concat_neg _ _ _ (by simpa using hc), houter, hlower, ← List.append_assoc,
        List.rdropWhile_concat_neg _ _ _ (by simpa using hd)]

/-- **The slashes at both ends of a slug** are those of the name. -/
theorem trimOf_slug (name : String) :
    Text.trimOf '/' (slug name) = slug (Text.trimOf '/' name) := by
  rw [slug, slug, Text.trimOf, Text.trimOf, Text.trimWhile, Text.trimWhile, String.toList_ofList,
    String.toList_ofList, dropWhile_slash_slug, Text.dropEndWhile_eq_rdropWhile,
    Text.dropEndWhile_eq_rdropWhile, rdropWhile_slash_slug]

/-! ### Slugs of slugs -/

theorem isLowered_of_mem_slug {name : String} {c : Char} (hc : c ∈ (slug name).toList) :
    Text.IsLowered c := by
  rw [slug, String.toList_ofList] at hc
  exact Text.isLowered_of_mem_lowerChars hc

/-- **A slug is lowercase, and it is its own slug**: it has no capital letter of ASCII, so that it
gets no further hyphen, and lowercasing it changes nothing. -/
theorem slug_slug (name : String) :
    slug (slug name) = slug name ∧ Text.lowercase (slug name) = slug name ∧
      (slug name).toList.any Char.isUpper = false := by
  have hlowered : ∀ c ∈ (slug name).toList, Text.IsLowered c := fun _ => isLowered_of_mem_slug
  have hupper : ∀ c ∈ (slug name).toList, c.isUpper = false := fun c hc =>
    (hlowered c hc).isUpper_eq
  have hlowercase : Text.lowercase (slug name) = slug name := by
    rw [Text.lowercase, Text.lowerChars_of_isLowered hlowered, String.ofList_toList]
  refine ⟨?_, hlowercase, ?_⟩
  · rw [slug, hyphenate_eq_self hupper]
    exact hlowercase
  · rw [List.any_eq_false]
    exact fun c hc => Bool.eq_false_iff.1 (hupper c hc)

/-- The sign for a Kelvin becomes an ordinary letter, which gets no hyphen in front of it. -/
example : slug "ten\u212A" = "tenk" ∧ slug "tenK" = "ten-k" := by decide +kernel

end Matchday
