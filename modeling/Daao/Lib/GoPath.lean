/-
Daao.Lib.GoPath — the lexical functions of Go's `path/filepath` on Unix:
`Clean`, `IsAbs`, `Join`, `Abs` and `Base`.

A cleaned rooted path is `render` of its components, which are not empty
and have no slash in them; so a path has another one as an
ancestor just when the text of that one, with a slash behind it, is a
prefix (`under_iff`).
-/
import Daao.Lib.GoStrings

namespace Daao.Lib.GoPath

open List

/-! ## 1. The functions -/

/-- One component of `Clean`. Two dots take the component before them
along; where there is none, a rooted path drops them. -/
def cleanStep (rooted : Bool) (kept : List GoString) (s : GoString) : List GoString :=
  if s = [] ∨ s = go "." then kept
  else if s = go ".." then
    if kept.getLast?.all (· = go "..") then (if rooted then kept else kept ++ [s])
    else kept.dropLast
  else kept ++ [s]

def isAbs (path : GoString) : Bool := path.head? = some slash

def cleaned (path : GoString) : List GoString :=
  (path.splitOn slash).foldl (cleanStep (isAbs path)) []

def render (components : List GoString) : GoString := slash :: [slash].intercalate components

def clean (path : GoString) : GoString :=
  if isAbs path then render (cleaned path)
  else if cleaned path = [] then go "." else [slash].intercalate (cleaned path)

/-- `Join` of two elements; empty ones are left out. -/
def join (dir name : GoString) : GoString :=
  if dir ≠ [] then clean (dir ++ slash :: name) else if name ≠ [] then clean name else []

def abs (workingDir path : GoString) : GoString :=
  if isAbs path then clean path else join workingDir path

def base (path : GoString) : GoString :=
  if path = [] then go "."
  else
    let last := ((trimRight path slash).splitOn slash).getLastD []
    if last = [] then [slash] else last

def components (path : GoString) : List GoString := (path.splitOn slash).filter (· ≠ [])

/-! ## 2. Cleaned paths -/

def Proper (ks : List GoString) : Prop := ∀ k ∈ ks, k ≠ [] ∧ slash ∉ k

variable {ks ds : List GoString} {path : GoString}

theorem proper_cleanStep (r : Bool) {s : GoString} (hks : Proper ks) (hs : slash ∉ s) :
    Proper (cleanStep r ks s) := by
  have ha (hne : s ≠ []) : Proper (ks ++ [s]) := by
    intro k hk
    rcases mem_append.mp hk with hk | hk
    · exact hks k hk
    · grind
  unfold cleanStep
  split
  · exact hks
  rename_i hs'
  have hne : s ≠ [] := fun h => hs' (.inl h)
  split
  · split
    · grind
    · exact fun k hk => hks k ((dropLast_sublist _).mem hk)
  · exact ha hne

theorem proper_cleaned (path : GoString) : Proper (cleaned path) := by
  suffices hf : ∀ (e ks : List GoString), (∀ s ∈ e, slash ∉ s) → Proper ks →
      Proper (e.foldl (cleanStep (isAbs path)) ks) from
    hf _ [] (fun _ => not_mem_of_mem_splitOn) (fun k hk => nomatch hk)
  intro e
  induction e with
  | nil => exact fun ks _ hks => hks
  | cons s e ih => grind [mem_cons_of_mem, proper_cleanStep, mem_cons_self]

theorem splitOn_join (hks : Proper ks) (hne : ks ≠ []) :
    ([slash].intercalate ks).splitOn slash = ks :=
  splitOn_intercalate slash (fun k hk => (hks k hk).2) hne

theorem components_render (hks : Proper ks) : components (render ks) = ks := by
  have hs : (render ks).splitOn slash = [] :: ([slash].intercalate ks).splitOn slash :=
    splitOn_append_cons_self [] _
  rw [components, hs]
  by_cases hne : ks = []
  · subst hne
    rfl
  rw [splitOn_join hks hne, filter_cons_of_neg (by simp)]
  exact filter_eq_self.mpr fun k hk => by simpa using (hks k hk).1

theorem render_append (hds : Proper ds) (hks : Proper ks) (hne : ds ≠ []) (hne' : ks ≠ []) :
    render (ds ++ ks) = render ds ++ slash :: [slash].intercalate ks := by
  have hs : ([slash].intercalate ds ++ slash :: [slash].intercalate ks).splitOn slash
      = ds ++ ks := by
    rw [splitOn_append_cons_self, splitOn_join hds hne, splitOn_join hks hne']
  rw [render, ← hs, intercalate_splitOn]
  rfl

/-- A test on the texts tells whether one path is an ancestor of another or
the same. The root is no ancestor by it. -/
theorem under_iff (hds : Proper ds) (hks : Proper ks) (hne : ds ≠ []) :
    hasPrefix (render ks) (render ds ++ [slash]) = true ∨ render ks = render ds ↔ ds <+: ks := by
  constructor
  · rintro (hp | heq)
    · obtain ⟨r, hr⟩ := isPrefixOf_iff_prefix.mp hp
      have hs : ([slash].intercalate ks).splitOn slash = ds ++ r.splitOn slash := by
        grind [render, splitOn_append_cons_self, splitOn_join]
      by_cases hn : ks = []
      · subst hn
        have hl := congrArg length hs
        have hpo := length_pos_of_ne_nil hne
        have hpo' := length_pos_of_ne_nil (splitOn_ne_nil slash r)
        rw [length_append] at hl
        change 1 = _ at hl
        omega
      rw [splitOn_join hks hn] at hs
      exact ⟨_, hs.symm⟩
    · grind [components_render]
  · rintro ⟨es, rfl⟩
    by_cases hn : es = []
    · exact .inr (by rw [hn, append_nil])
    refine .inl ( isPrefixOf_iff_prefix.mpr ⟨[slash].intercalate es, ?_⟩)
    rw [render_append hds (fun k hk => hks k (mem_append_right _ hk)) hne hn]
    simp

/-! ## 3. The other functions -/

theorem abs_clean {wd : GoString} (hwd : isAbs wd = true) (path : GoString) :
    ∃ ks, Proper ks ∧ abs wd (clean path) = render ks := by
  have hr {path : GoString} (h : isAbs path = true) :
      ∃ ks, Proper ks ∧ clean path = render ks := ⟨_, proper_cleaned path, if_pos h⟩
  unfold abs
  split
  · rename_i ha
    exact hr ha
  obtain ⟨b, rest, rfl⟩ : ∃ b rest, wd = b :: rest := by
    cases wd with
    | nil => cases hwd
    | cons b rest => exact ⟨b, rest, rfl⟩
  exact hr hwd

theorem base_eq_self (h : base path = path) : path = [slash] ∨ path ≠ [] ∧ slash ∉ path := by
  unfold base at h
  split at h
  · rename_i hn
    cases hn.symm.trans h.symm
  rename_i hne
  simp only at h
  split at h
  · exact .inl h.symm
  refine .inr ⟨hne, ?_⟩
  rw [← h, getLastD_eq_getLast?, getLast?_eq_some_getLast (splitOn_ne_nil _ _)]
  exact not_mem_of_mem_splitOn (getLast_mem _)

/-- A name is put behind the components of a directory; a slash adds
nothing. -/
theorem join_of_base {dir n : GoString} (ha : isAbs dir = true) (hc : clean dir = dir)
    (hn : base n = n) (hdo : n ≠ go ".") (hd : n ≠ go "..") :
    n = [slash] ∧ join dir n = dir ∨
      n ≠ [] ∧ slash ∉ n ∧ join dir n = render (components dir ++ [n]) := by
  have hne : dir ≠ [] := by
    rintro rfl
    cases ha
  have hdi : dir = render (cleaned dir) := hc.symm.trans (if_pos ha)
  have ha' : isAbs (dir ++ slash :: n) = true := by
    rw [hdi]
    rfl
  have hj : join dir n
      = render ((n.splitOn slash).foldl (cleanStep true) (cleaned dir)) := by
    rw [join, if_pos hne, clean, if_pos ha', cleaned, ha', splitOn_append_cons_self,
      foldl_append, cleaned, ha]
  rw [hj]
  rcases base_eq_self hn with rfl | ⟨hne', hs⟩
  · exact .inl ⟨rfl, hdi.symm⟩
  refine .inr ⟨hne', hs, ?_⟩
  have hsp : ([slash].intercalate [n]).splitOn slash = [n] :=
    splitOn_intercalate slash (by simpa using hs) (by simp)
  rw [intercalate_singleton] at hsp
  have hco : components dir = cleaned dir := by
    rw [hdi, components_render (proper_cleaned dir), ← hdi]
  rw [hsp, hco, foldl_cons, foldl_nil, cleanStep, if_neg (by simp [hne', hdo]), if_neg hd]

/-! ## 4. Cleaned paths cleaned again -/

/-- `Dir`: what is before the last slash, cleaned. -/
def dir (path : GoString) : GoString := clean (path.reverse.dropWhile (· ≠ slash)).reverse

def NoDots (ks : List GoString) : Prop := ∀ k ∈ ks, k ≠ go "." ∧ k ≠ go ".."

theorem noDots_cleaned (ha : isAbs path = true) : NoDots (cleaned path) := by
  suffices hf : ∀ e ks : List GoString, NoDots ks →
      NoDots (e.foldl (cleanStep true) ks) by
    rw [cleaned, ha]
    exact hf _ [] nofun
  intro e
  induction e with
  | nil => exact fun ks hks => hks
  | cons s e ih =>
    intro ks hks
    have hd : ks.dropLast ⊆ ks := (dropLast_sublist ks).subset
    exact ih _ fun k hk => by grind [cleanStep, NoDots]

theorem foldl_cleanStep (hks : Proper ks) (hd : NoDots ks) (e : List GoString) :
    ks.foldl (cleanStep true) e = e ++ ks := by
  induction ks generalizing e with
  | nil => simp
  | cons k ks ih =>
    have hk := hks k mem_cons_self
    have hdo := hd k mem_cons_self
    rw [foldl_cons, cleanStep, if_neg (by simp [hk.1, hdo.1]), if_neg hdo.2,
      ih (fun k hk => hks k (mem_cons_of_mem _ hk)) fun k hk => hd k (mem_cons_of_mem _ hk)]
    simp

theorem cleaned_render (hks : Proper ks) (hd : NoDots ks) : cleaned (render ks) = ks := by
  have hs : (render ks).splitOn slash = [] :: ([slash].intercalate ks).splitOn slash :=
    splitOn_append_cons_self [] _
  rw [cleaned, hs]
  by_cases hne : ks = []
  · subst hne
    rfl
  rw [splitOn_join hks hne]
  exact foldl_cleanStep hks hd []

theorem clean_render (hks : Proper ks) (hd : NoDots ks) : clean (render ks) = render ks := by
  rw [clean, if_pos (show isAbs (render ks) = true from rfl), cleaned_render hks hd]

theorem dir_render {k : GoString} (hks : Proper (ks ++ [k])) (hd : NoDots (ks ++ [k])) :
    dir (render (ks ++ [k])) = render ks := by
  have hks' : Proper ks := fun k hk => hks k (mem_append_left _ hk)
  have hs : slash ∉ k := (hks k (by simp)).2
  obtain ⟨pre, hp, ha, hc⟩ : ∃ pre, render (ks ++ [k]) = pre ++ slash :: k ∧
      isAbs (pre ++ [slash]) = true ∧ (pre.splitOn slash).foldl (cleanStep true) [] = ks := by
    by_cases hne : ks = []
    · subst hne
      exact ⟨[], by simp [render], rfl, rfl⟩
    refine ⟨render ks, ?_, rfl, cleaned_render hks' fun k hk => hd k (mem_append_left _ hk)⟩
    rw [render_append hks' (fun k' hk' => hks k' (mem_append_right _ hk')) hne (by simp),
      intercalate_singleton]
  have hdr : ((pre ++ slash :: k).reverse.dropWhile (· ≠ slash)).reverse = pre ++ [slash] := by
    rw [reverse_append, reverse_cons, append_assoc, dropWhile_append_of_pos]
    · simp
    · grind
  rw [dir, hp, hdr, clean, if_pos ha, cleaned, ha, splitOn_append_cons_self, foldl_append, hc]
  rfl

end Daao.Lib.GoPath
