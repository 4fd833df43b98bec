import Mathlib.Algebra.Order.BigOperators.Group.List
import Mathlib.Algebra.Order.Ring.Nat
import Mathlib.Logic.Function.Iterate

/-!
# Paths on a host

A path is a text that is cut at its slashes.  Following its segments one after the other leads to a
place: a segment `..` goes up, an empty one and `.` stay, and any other one goes down into what it
names.  From the root one cannot go up; from anywhere else one can, by any number of levels.

A path lies in a directory when it leads to the same place or to one below it.  That is a matter of
places, and not of texts.

Main results:

- `HostPath.liesIn_append_iff`: a path without dots that continues the text of a directory lies in
  it exactly if it continues it at a slash.
- `HostPath.exists_escape`: unless the root is listed and nothing relative is, the text of a listed
  directory continues to a path that lies in no listed directory.
-/

namespace Orchestration
namespace HostPath

/-! ## Places -/

/-- From where a place is found: from the root, or from some levels above where one stands. -/
inductive Origin where
  | root
  | above (levels : Nat)
  deriving DecidableEq, Repr

namespace Origin

/-- One level up. -/
def up : Origin → Origin
  | .root => .root
  | .above levels => .above (levels + 1)

/-- The levels that the origin is above where one stands. -/
def levels : Origin → Nat
  | .root => 0
  | .above levels => levels

/-- Levels up add up. -/
theorem iterate_up_above (k levels : Nat) : up^[k] (.above levels) = .above (levels + k) := by
  induction k with
  | zero => rfl
  | succ k ih => rw [Function.iterate_succ_apply', ih, up, Nat.add_assoc]

/-- Only the root leads up to the root. -/
theorem up_eq_root_iff {o : Origin} : o.up = .root ↔ o = .root := by
  cases o <;> simp [up]

/-- The origin of a path. -/
def ofPath : List Char → Origin
  | '/' :: _ => .root
  | _ => .above 0

end Origin

/-- Where a path leads: the origin, and the names on the way down from it, the last one first. -/
structure Place where
  origin : Origin
  names : List (List Char)
  deriving DecidableEq, Repr

namespace Place

/-- The root. -/
def root : Place :=
  ⟨.root, []⟩

/-- One level up. -/
def leave : Place → Place
  | ⟨origin, []⟩ => ⟨origin.up, []⟩
  | ⟨origin, _ :: names⟩ => ⟨origin, names⟩

/-- Follows one segment of a path. -/
def enter (p : Place) (segment : List Char) : Place :=
  if segment = [] ∨ segment = ['.'] then p
  else if segment = ['.', '.'] then p.leave
  else { p with names := segment :: p.names }

/-- An empty segment stays. -/
theorem enter_nil (p : Place) : p.enter [] = p :=
  rfl

/-- Two dots go up. -/
theorem enter_parent (p : Place) : p.enter ['.', '.'] = p.leave := by
  simp [enter]

/-- Going up does not turn a place below the root into another one. -/
theorem origin_leave_eq_root_iff {p : Place} : p.leave.origin = .root ↔ p.origin = .root := by
  obtain ⟨origin, names⟩ := p
  cases names with
  | nil => exact Origin.up_eq_root_iff
  | cons _ _ => exact Iff.rfl

/-- No segment turns a place below the root into another one. -/
theorem origin_enter_eq_root_iff {p : Place} {segment : List Char} :
    (p.enter segment).origin = .root ↔ p.origin = .root := by
  unfold enter
  split
  · exact Iff.rfl
  · split
    · exact origin_leave_eq_root_iff
    · exact Iff.rfl

/-- Nor do several of them. -/
theorem origin_foldl_eq_root_iff {p : Place} {segments : List (List Char)} :
    (segments.foldl enter p).origin = .root ↔ p.origin = .root := by
  induction segments generalizing p with
  | nil => exact Iff.rfl
  | cons segment segments ih => exact ih.trans origin_enter_eq_root_iff

/-- Going up by more levels than there are names leads above the origin. -/
theorem iterate_leave (p : Place) (k : Nat) :
    leave^[p.names.length + k] p = ⟨Origin.up^[k] p.origin, []⟩ := by
  obtain ⟨origin, names⟩ := p
  induction names with
  | nil =>
      rw [List.length_nil, Nat.zero_add]
      induction k with
      | zero => rfl
      | succ k ih => rw [Function.iterate_succ_apply', ih, Function.iterate_succ_apply', leave]
  | cons name names ih =>
      rw [List.length_cons, Nat.add_right_comm, Function.iterate_succ_apply]
      exact ih

/-- The place that segments without dots lead to. -/
theorem foldl_enter_of_plain {segments : List (List Char)} (p : Place)
    (hdot : ['.'] ∉ segments) (hparent : ['.', '.'] ∉ segments) :
    segments.foldl enter p =
      { p with names := (segments.filter (· ≠ [])).reverse ++ p.names } := by
  induction segments generalizing p with
  | nil => rfl
  | cons segment segments ih =>
      rw [List.mem_cons, not_or] at hdot hparent
      rw [List.foldl_cons, ih _ hdot.2 hparent.2]
      by_cases hempty : segment = []
      · rw [hempty, enter_nil]
        rfl
      · have hdown : p.enter segment = { p with names := segment :: p.names } := by
          rw [enter, if_neg (not_or.2 ⟨hempty, Ne.symm hdot.1⟩), if_neg (Ne.symm hparent.1)]
        simp [hdown, hempty]

end Place

/-! ## Paths -/

/-- The parts of a path between its slashes. -/
def segments (path : List Char) : List (List Char) :=
  path.splitOn '/'

/-- The place that a path leads to. -/
def place (path : List Char) : Place :=
  (segments path).foldl Place.enter ⟨.ofPath path, []⟩

/-- A path leads to where a directory is, or to somewhere below it. -/
def LiesIn (dir path : List Char) : Prop :=
  (place dir).origin = (place path).origin ∧ (place dir).names <:+ (place path).names

instance (dir path : List Char) : Decidable (LiesIn dir path) :=
  inferInstanceAs (Decidable (_ ∧ _))

/-- A path is written without the segments that stay or go up. -/
structure Plain (path : List Char) : Prop where
  dot : ['.'] ∉ segments path
  parent : ['.', '.'] ∉ segments path

/-- A slash ends a segment. -/
theorem segments_append_slash (path rest : List Char) :
    segments (path ++ '/' :: rest) = segments path ++ segments rest :=
  List.splitOn_append_cons_self _ _

/-- Any other character belongs to one. -/
theorem segments_cons_of_ne {c : Char} (hc : c ≠ '/') (path : List Char) :
    segments (c :: path) = (segments path).modifyHead (c :: ·) := by
  rw [segments, List.splitOn_cons_eq_if_modifyHead, if_neg (by simpa using hc)]
  rfl

/-- A text that is continued: its last segment goes on with the first one of what follows. -/
theorem exists_segments_append (path rest : List Char) :
    ∃ init last first more, segments path = init ++ [last] ∧ segments rest = first :: more ∧
      segments (path ++ rest) = init ++ (last ++ first) :: more := by
  induction path with
  | nil =>
      obtain ⟨first, more, hrest⟩ := List.exists_cons_of_ne_nil (List.splitOn_ne_nil '/' rest)
      exact ⟨[], [], first, more, rfl, hrest, hrest⟩
  | cons c path ih =>
      obtain ⟨init, last, first, more, hpath, hrest, happend⟩ := ih
      by_cases hc : c = '/'
      · have hcut (tail : List Char) : segments (c :: tail) = [] :: segments tail := by
          rw [hc]
          exact segments_append_slash [] tail
        refine ⟨[] :: init, last, first, more, ?_, hrest, ?_⟩
        · rw [hcut, hpath, List.cons_append]
        · rw [List.cons_append, hcut, happend, List.cons_append]
      · cases init with
        | nil =>
            refine ⟨[], c :: last, first, more, ?_, hrest, ?_⟩
            · rw [segments_cons_of_ne hc, hpath]
              rfl
            · rw [List.cons_append, segments_cons_of_ne hc, happend]
              rfl
        | cons segment init =>
            refine ⟨(c :: segment) :: init, last, first, more, ?_, hrest, ?_⟩
            · rw [segments_cons_of_ne hc, hpath]
              rfl
            · rw [List.cons_append, segments_cons_of_ne hc, happend]
              rfl

/-- A text that does not begin at a slash begins with a segment that is not empty. -/
theorem head_segments_ne_nil {c : Char} (hc : c ≠ '/') {path first : List Char}
    {more : List (List Char)} (h : segments (c :: path) = first :: more) : first ≠ [] := by
  obtain ⟨segment, rest, hpath⟩ := List.exists_cons_of_ne_nil (List.splitOn_ne_nil '/' path)
  rw [segments_cons_of_ne hc, segments, hpath, List.modifyHead_cons, List.cons.injEq] at h
  rw [← h.1]
  exact List.cons_ne_nil _ _

/-- A text that does not end at a slash ends with a segment that is not empty. -/
theorem last_segments_ne_nil {c : Char} (hc : c ≠ '/') {path last : List Char}
    {init : List (List Char)} (h : segments (path ++ [c]) = init ++ [last]) : last ≠ [] := by
  obtain ⟨init', last', first, more, -, hone, happend⟩ := exists_segments_append path [c]
  rw [segments_cons_of_ne hc] at hone
  cases hone
  rw [happend] at h
  have hlast : last' ++ [c] = last := List.singleton_inj.1 (List.append_inj' h rfl).2
  rw [← hlast]
  exact List.append_ne_nil_of_right_ne_nil _ (List.cons_ne_nil _ _)

/-- The origin of a place is the root exactly if the path begins there. -/
theorem origin_place_eq_root_iff {path : List Char} :
    (place path).origin = .root ↔ ∃ rest, path = '/' :: rest := by
  rw [place, Place.origin_foldl_eq_root_iff]
  constructor
  · intro h
    unfold Origin.ofPath at h
    split at h
    · exact ⟨_, rfl⟩
    · cases h
  · rintro ⟨rest, rfl⟩
    rfl

/-- A text that is continued keeps its origin. -/
theorem origin_append {path : List Char} (hne : path ≠ []) (rest : List Char) :
    Origin.ofPath (path ++ rest) = Origin.ofPath path := by
  obtain ⟨c, path, rfl⟩ := List.exists_cons_of_ne_nil hne
  by_cases hc : c = '/'
  · rw [hc]
    rfl
  · simp [Origin.ofPath, hc]

/-- A path without dots leads to the place of its names. -/
theorem place_of_plain {path : List Char} (h : Plain path) :
    place path = ⟨.ofPath path, ((segments path).filter (· ≠ [])).reverse⟩ := by
  rw [place, Place.foldl_enter_of_plain _ h.dot h.parent, List.append_nil]

/-! ## Where the text of a directory leads on -/

/-- Below a directory that is not empty, a path without dots that continues its text lies in it
exactly if it continues it at a slash. -/
theorem liesIn_append_iff {dir rest : List Char} (hne : dir ≠ []) (hdir : Plain dir)
    (hpath : Plain (dir ++ rest)) :
    LiesIn dir (dir ++ rest) ↔
      rest = [] ∨ (∃ tail, rest = '/' :: tail) ∨ ∃ head, dir = head ++ ['/'] := by
  have hplaces : LiesIn dir (dir ++ rest) ↔
      (segments dir).filter (· ≠ []) <+: (segments (dir ++ rest)).filter (· ≠ []) := by
    rw [LiesIn, place_of_plain hdir, place_of_plain hpath, origin_append hne,
      List.reverse_suffix]
    exact ⟨And.right, fun h => ⟨rfl, h⟩⟩
  rw [hplaces]
  constructor
  · intro htext
    by_contra hwithin
    rw [not_or, not_or] at hwithin
    obtain ⟨hrest, hslash, hends⟩ := hwithin
    obtain ⟨init, last, first, more, hsegments, hfirst, happend⟩ := exists_segments_append dir rest
    -- the text goes on within a segment, so neither part of that segment is empty
    have hfirst_ne : first ≠ [] := by
      obtain ⟨c, tail, rfl⟩ := List.exists_cons_of_ne_nil hrest
      exact head_segments_ne_nil (fun hc => hslash ⟨tail, by rw [hc]⟩) hfirst
    have hlast_ne : last ≠ [] := by
      rcases List.eq_nil_or_concat' dir with hnil | ⟨head, c, rfl⟩
      · exact absurd hnil hne
      · exact last_segments_ne_nil (fun hc => hends ⟨head, by rw [hc]⟩) hsegments
    rw [hsegments, happend, List.filter_append, List.filter_append, List.prefix_append_right_inj,
      List.filter_cons_of_pos (by simp [hlast_ne]), List.filter_cons_of_pos (by simp [hlast_ne]),
      List.cons_prefix_cons] at htext
    exact hfirst_ne (List.self_eq_append_right.1 htext.1)
  · rintro (rfl | ⟨tail, rfl⟩ | ⟨head, rfl⟩)
    · simp only [List.append_nil]
      exact List.prefix_rfl
    · rw [segments_append_slash, List.filter_append]
      exact List.prefix_append _ _
    · rw [List.append_assoc, List.singleton_append, segments_append_slash, segments_append_slash,
        List.filter_append, List.filter_append, List.prefix_append_right_inj]
      exact List.nil_prefix

/-- A path that goes up by some levels in the end. -/
def climb (path : List Char) : Nat → List Char
  | 0 => path
  | k + 1 => climb path k ++ ['/', '.', '.']

/-- A path that goes up in the end begins with the text of the path. -/
theorem prefix_climb (path : List Char) (k : Nat) : path <+: climb path k := by
  induction k with
  | zero => exact List.prefix_rfl
  | succ k ih => exact ih.trans (List.prefix_append _ _)

/-- Two dots in the end of a path lead one level up. -/
theorem place_append_parent {path : List Char} (hne : path ≠ []) :
    place (path ++ ['/', '.', '.']) = (place path).leave := by
  have hparent : segments ['.', '.'] = [['.', '.']] := rfl
  rw [place, origin_append hne, segments_append_slash, hparent, List.foldl_append]
  exact Place.enter_parent _

/-- Several of them lead up by as many levels. -/
theorem place_climb {path : List Char} (hne : path ≠ []) (k : Nat) :
    place (climb path k) = Place.leave^[k] (place path) := by
  induction k with
  | zero => rfl
  | succ k ih =>
      have hclimb : climb path k ≠ [] := by
        intro h
        have htext := prefix_climb path k
        rw [h, List.prefix_nil] at htext
        exact hne htext
      rw [climb, place_append_parent hclimb, ih, Function.iterate_succ_apply']

/-- The root is listed, and nothing but absolute paths. -/
structure ListsRoot (dirs : List (List Char)) : Prop where
  absolute : ∀ dir ∈ dirs, (place dir).origin = .root
  root : ∃ dir ∈ dirs, place dir = .root

/-- If the root is listed and nothing relative is, the text of a listed directory continues only to
paths that lie in the root. -/
theorem ListsRoot.liesIn {dirs : List (List Char)} (h : ListsRoot dirs) {dir path : List Char}
    (hdir : dir ∈ dirs) (htext : dir <+: path) : ∃ dir' ∈ dirs, LiesIn dir' path := by
  obtain ⟨top, htop, hroot⟩ := h.root
  obtain ⟨tail, rfl⟩ := origin_place_eq_root_iff.1 (h.absolute dir hdir)
  obtain ⟨rest, rfl⟩ := htext
  refine ⟨top, htop, ?_, ?_⟩
  · rw [hroot]
    exact (origin_place_eq_root_iff.2 ⟨_, rfl⟩).symm
  · rw [hroot]
    exact List.nil_suffix

/-- From a relative path one can climb out of all listed directories. -/
theorem exists_climb_of_relative (dirs : List (List Char)) {path : List Char} (hne : path ≠ [])
    (hrelative : (place path).origin ≠ .root) :
    ∃ k, ∀ dir ∈ dirs, ¬ LiesIn dir (climb path k) := by
  let bound := (dirs.map (fun dir => (place dir).origin.levels)).sum
  refine ⟨(place path).names.length + (bound + 1), fun dir hdir hlies => ?_⟩
  have hle : (place dir).origin.levels ≤ bound :=
    List.single_le_sum (fun _ _ => Nat.zero_le _) _ (List.mem_map_of_mem hdir)
  rw [LiesIn, place_climb hne, Place.iterate_leave] at hlies
  cases horigin : (place path).origin with
  | root => exact hrelative horigin
  | above levels =>
      rw [horigin, Origin.iterate_up_above] at hlies
      rw [hlies.1, Origin.levels] at hle
      omega

/-- Unless the root is listed and nothing relative is, the text of a listed directory continues to a
path that lies in no listed directory. -/
theorem exists_escape {dirs : List (List Char)} (hlisted : dirs ≠ []) (h : ¬ ListsRoot dirs) :
    ∃ path, (∃ dir ∈ dirs, dir <+: path) ∧ ∀ dir ∈ dirs, ¬ LiesIn dir path := by
  by_cases habsolute : ∀ dir ∈ dirs, (place dir).origin = .root
  · -- from a listed directory one comes to the root, which is in no listed directory
    obtain ⟨dir, hdir⟩ := List.exists_mem_of_ne_nil dirs hlisted
    obtain ⟨tail, rfl⟩ := origin_place_eq_root_iff.1 (habsolute dir hdir)
    refine ⟨climb ('/' :: tail) (place ('/' :: tail)).names.length,
      ⟨_, hdir, prefix_climb _ _⟩, fun other hother hlies => h ⟨habsolute, other, hother, ?_⟩⟩
    have hleave := Place.iterate_leave (place ('/' :: tail)) 0
    rw [LiesIn, place_climb (List.cons_ne_nil _ _), ← Nat.add_zero (place _).names.length, hleave,
      List.suffix_nil] at hlies
    obtain ⟨horigin, hnames⟩ := hlies
    rw [Place.root, ← habsolute other hother, ← hnames]
  · push Not at habsolute
    obtain ⟨dir, hdir, hrelative⟩ := habsolute
    by_cases hempty : dir = []
    · -- any text continues the empty one
      obtain ⟨k, hescape⟩ := exists_climb_of_relative dirs
        (List.cons_ne_nil '.' ['.']) (by decide)
      exact ⟨_, ⟨dir, hdir, hempty ▸ List.nil_prefix⟩, hescape⟩
    · obtain ⟨k, hescape⟩ := exists_climb_of_relative dirs hempty hrelative
      exact ⟨_, ⟨dir, hdir, prefix_climb _ _⟩, hescape⟩

end HostPath
end Orchestration
