import RtsProxy.Text.Basic

/-!
# Paths

The lexical reading of file paths: `.` and empty segments say nothing, `..` takes
the last segment back. Of a relative path, a `..` that has nothing to take back
stays in front.

* `Path.Inside`: a path lies inside a directory, or is it;
* `Path.staysInside`: the segments never take back more than they have entered;
* `Path.suffix_of_staysInside`, `Path.not_suffix_of_leaves`: segments that stay inside
  keep to a directory they are glued to; others do not keep to both of two.
-/

namespace Path

open Text

/-- The segments between the slashes. -/
def segments (p : Bytes) : List Bytes := p.splitOn 47

/-- The segment says nothing. -/
def isTrivial (seg : Bytes) : Bool := seg = [] || seg = ascii "."

/-- The segment takes the last one back. -/
def isParent (seg : Bytes) : Bool := seg = ascii ".."

/-- A segment read with the segments so far, the innermost first. -/
def enter (absolute : Bool) (stack : List Bytes) (seg : Bytes) : List Bytes :=
  if isTrivial seg then stack
  else if isParent seg then
    match stack with
    | [] => if absolute then [] else [seg]
    | top :: rest => if isParent top then seg :: stack else rest
  else seg :: stack

/-- The path starts at the root. -/
def isAbsolute (p : Bytes) : Bool := p.head? = some 47

/-- The segments of a path after lexical resolution, the innermost first. -/
def resolve (p : Bytes) : List Bytes := (segments p).foldl (enter (isAbsolute p)) []

/-- A path lies inside a directory, or is it. -/
def Inside (dir p : Bytes) : Prop := isAbsolute dir = isAbsolute p ∧ resolve dir <:+ resolve p

instance (dir p : Bytes) : Decidable (Inside dir p) := inferInstanceAs (Decidable (_ ∧ _))

/-- The segments never take back more than the `depth` entered before and those they
    enter. -/
def staysInside : Nat → List Bytes → Bool
  | _, [] => true
  | depth, seg :: segs =>
    if isTrivial seg then staysInside depth segs
    else if isParent seg then
      match depth with
      | 0 => false
      | depth + 1 => staysInside depth segs
    else staysInside (depth + 1) segs

/-! ## Steps -/

variable {abs : Bool} {seg top v v' w w' : Bytes} {base inner rest stack segs : List Bytes}

theorem enter_of_trivial (h : isTrivial seg) : enter abs stack seg = stack := by
  rw [enter.eq_def, if_pos h]

theorem enter_of_parent (h : ¬isTrivial seg) (hp : isParent seg) (htop : isParent top = false) :
    enter abs (top :: rest) seg = rest := by
  simp [enter, h, hp, htop]

theorem enter_of_name (h : ¬isTrivial seg) (hp : ¬isParent seg) :
    enter abs stack seg = seg :: stack := by
  simp [enter, h, hp]

/-- Names go on top of names. -/
theorem names_cons (hin : ∀ s ∈ inner, isParent s = false) (hp : ¬isParent seg) :
    ∀ s ∈ seg :: inner, isParent s = false := by
  intro s hs
  rcases List.mem_cons.1 hs with rfl | hs
  · simpa using hp
  · exact hin s hs

/-! ## Glueing -/

/-- Text glued to a path with a slash in front adds its segments. -/
theorem segments_append_slash (p rest : Bytes) :
    segments (p ++ 47 :: rest) = segments p ++ segments rest :=
  List.splitOn_append_cons_self p rest

/-- Text glued to a name makes the name longer. -/
theorem segments_append_name {p : Bytes} (hp : (47 : UInt8) ∉ p) (rest : Bytes) :
    segments (p ++ rest) = (segments rest).modifyHead (p ++ ·) := by
  induction p with
  | nil =>
    cases h : segments rest <;> simp [h]
  | cons c p ih =>
    have hc : ¬c = 47 := fun h => hp (h ▸ List.mem_cons_self)
    rw [List.cons_append, segments, List.splitOn_cons_eq_if_modifyHead]
    simp only [beq_iff_eq, hc, if_false]
    rw [← segments, ih fun h => hp (List.mem_cons_of_mem _ h)]
    cases segments rest <;> rfl

/-- Segments that stay inside leave what was there. -/
theorem suffix_of_staysInside (hin : ∀ s ∈ inner, isParent s = false)
    (h : staysInside inner.length segs = true) :
    base <:+ segs.foldl (enter abs) (inner ++ base) := by
  induction segs generalizing inner with
  | nil => exact List.suffix_append inner base
  | cons seg segs ih =>
    rw [List.foldl_cons]
    by_cases ht : isTrivial seg
    · rw [enter_of_trivial ht]
      exact ih hin (by simpa [staysInside, ht] using h)
    · by_cases hp : isParent seg
      · cases inner with
        | nil => simp [staysInside, ht, hp] at h
        | cons top inner =>
          rw [List.cons_append, enter_of_parent ht hp (hin top List.mem_cons_self)]
          exact ih (fun s hs => hin s (List.mem_cons_of_mem _ hs))
            (by simpa [staysInside, ht, hp] using h)
      · rw [enter_of_name ht hp]
        exact ih (names_cons hin hp) (by simpa [staysInside, ht, hp] using h)

/-- A relative path that has gone above its start stays there. -/
theorem getLast_of_above (h : stack.getLast? = some (ascii "..")) :
    (segs.foldl (enter false) stack).getLast? = some (ascii "..") := by
  induction segs generalizing stack with
  | nil => exact h
  | cons seg segs ih =>
    rw [List.foldl_cons]
    refine ih ?_
    by_cases ht : isTrivial seg
    · rwa [enter_of_trivial ht]
    · by_cases hp : isParent seg
      · match stack, h with
        | [top], h =>
          have htop : isParent top = true := by simpa [isParent] using h
          simpa [enter, ht, hp, htop] using h
        | top :: next :: rest, h =>
          by_cases htop : isParent top
          · simpa [enter, ht, hp, htop] using h
          · simpa [enter, ht, hp, htop] using h
      · rw [enter_of_name ht hp]
        match stack, h with
        | top :: rest, h => exact h

/-- Segments read from some names, and from the same names on top of an absolute
    `base`, either go above the start or enter the same names. -/
theorem above_or_same (hin : ∀ s ∈ inner, isParent s = false) :
    (segs.foldl (enter false) inner).getLast? = some (ascii "..") ∨
      segs.foldl (enter true) (inner ++ base) = segs.foldl (enter false) inner ++ base := by
  induction segs generalizing inner with
  | nil => exact .inr rfl
  | cons seg segs ih =>
    rw [List.foldl_cons, List.foldl_cons]
    by_cases ht : isTrivial seg
    · rw [enter_of_trivial ht, enter_of_trivial ht]
      exact ih hin
    · by_cases hp : isParent seg
      · cases inner with
        | nil =>
          refine .inl (getLast_of_above ?_)
          have hdots : seg = ascii ".." := by simpa [isParent] using hp
          have hent : enter false [] seg = [seg] := by simp [enter, ht, hp]
          rw [hent, hdots]
          rfl
        | cons top inner =>
          have htop : isParent top = false := hin top List.mem_cons_self
          rw [List.cons_append, enter_of_parent ht hp htop, enter_of_parent ht hp htop]
          exact ih fun s hs => hin s (List.mem_cons_of_mem _ hs)
      · rw [enter_of_name ht hp, enter_of_name ht hp]
        exact ih (names_cons hin hp)

/-- Segments that leave two directories, one of them relative, do not come into two of
    different names at their places. -/
theorem not_suffix_of_leaves (hw : w ≠ w') (hpar : isParent w = false)
    (hv : isParent v = false) (hv' : isParent v' = false)
    (hin : ∀ s ∈ inner, isParent s = false) (h : staysInside inner.length segs = false)
    (hrel : [w] <:+ segs.foldl (enter false) (inner ++ [v])) :
    ¬w' :: base <:+ segs.foldl (enter true) (inner ++ v' :: base) := by
  induction segs generalizing inner with
  | nil => simp [staysInside] at h
  | cons seg segs ih =>
    rw [List.foldl_cons] at hrel ⊢
    by_cases ht : isTrivial seg
    · rw [enter_of_trivial ht] at hrel ⊢
      exact ih hin (by simpa [staysInside, ht] using h) hrel
    · by_cases hp : isParent seg
      · cases inner with
        | nil =>
          -- here both directories are left
          rw [List.nil_append, enter_of_parent ht hp hv] at hrel
          rw [List.nil_append, enter_of_parent ht hp hv']
          rcases (above_or_same (by simp) : (segs.foldl (enter false) []).getLast? = _ ∨
            segs.foldl (enter true) ([] ++ base) = _) with habove | hsame
          · obtain ⟨front, hfront⟩ := hrel
            rw [← hfront, List.getLast?_append] at habove
            have hdots : w = ascii ".." := by simpa using habove
            rw [hdots] at hpar
            exact absurd hpar (by decide)
          · intro habs
            rw [List.nil_append] at hsame
            rw [hsame, show w' :: base = [w'] ++ base from rfl,
              List.suffix_append_self_iff] at habs
            have := (List.suffix_of_suffix_length_le hrel habs (by simp)).eq_of_length rfl
            exact hw (by simpa using this)
        | cons top inner =>
          have htop : isParent top = false := hin top List.mem_cons_self
          rw [List.cons_append, enter_of_parent ht hp htop] at hrel ⊢
          exact ih (fun s hs => hin s (List.mem_cons_of_mem _ hs))
            (by simpa [staysInside, ht, hp] using h) hrel
      · rw [enter_of_name ht hp] at hrel ⊢
        exact ih (names_cons hin hp) (by simpa [staysInside, ht, hp] using h) hrel

end Path
