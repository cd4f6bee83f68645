/-
Daao.Lib.ServeMux — the request multiplexer of Go's `net/http` (as of Go
1.22, with methods and wildcards in patterns; no hosts).

A pattern is a method, or none, and a list of segments; a trailing slash
matches every rest of a path. The tree of the library is modelled by the
list of patterns that are left at a node, each with the segments it has
still to match: at every segment the literal children come first, then
the wildcard, then the trailing slash, and a branch that fails is left
again. Patterns of the request's method are tried before those without
one.

The matching is on the ESCAPED path, segment by segment, and a segment is
unescaped by itself: `/a%2Fb` has one segment, with a slash in it.

`none` means that no handler is called: the multiplexer answers by itself
with a redirect (to a cleaned path, or to the path with a slash), "not
found" or "method not allowed".
-/
import Daao.Lib.GoPath

namespace Daao.Lib.ServeMux

open List Option

inductive Segment where
  | literal (s : GoString)
  | wildcard
  | trailingSlash
  deriving DecidableEq

structure Pattern where
  method : Option String
  segments : List Segment

structure Route (H : Type) where
  pattern : Pattern
  handler : H

def parseSegment (s : GoString) : Segment :=
  if s.head? = some '{'.toUInt8 ∧ s.getLast? = some '}'.toUInt8 then .wildcard else .literal s

def parseSegments : List GoString → List Segment
  | [] => []
  | [s] => if s = [] then [.trailingSlash] else [parseSegment s]
  | s :: more => parseSegment s :: parseSegments more

/-- `mux.Handle`, for a pattern with the given method and path. -/
def register {H : Type} (method : Option String) (path : String) (handler : H) : Route H :=
  { pattern := { method := method, segments := parseSegments ((go path).drop 1 |>.splitOn slash) }
    handler := handler }

/-! ## 1. Paths -/

def unescapeSegment (s : GoString) : GoString := (pathUnescape s).getD s

/-- A final empty segment is a trailing slash. -/
def closeSegments : List GoString → List GoString
  | [] => []
  | [s] => if s = [] then [[slash]] else [unescapeSegment s]
  | s :: more => unescapeSegment s :: closeSegments more

/-- The segments of an escaped path, as `firstSegment` yields them one
after the other. -/
def pathSegments (path : GoString) : List GoString :=
  if path.head? = some slash then closeSegments (path.drop 1 |>.splitOn slash) else []

def cleanPath (path : GoString) : GoString :=
  let path := if GoPath.isAbs path then path else slash :: path
  let np := GoPath.clean path
  if path.getLast? = some slash ∧ np ≠ [slash] then np ++ [slash] else np

/-! ## 2. Matching -/

section Matching

variable {R : Type}

def literalChild (s : GoString) (p : List Segment × R) : Option (List Segment × R) :=
  match p.1 with
  | .literal s' :: more => if s' = s then some (more, p.2) else none
  | _ => none

def wildcardChild (p : List Segment × R) : Option (List Segment × R) :=
  match p.1 with
  | .wildcard :: more => some (more, p.2)
  | _ => none

def matchPath : List (List Segment × R) → List GoString → Option R
  | pats, [] => (pats.find? fun p => p.1 = []).map (·.2)
  | pats, s :: rest =>
    (matchPath (pats.filterMap (literalChild s)) rest).or
      ((if s = [slash] then none else matchPath (pats.filterMap wildcardChild) rest).or
        ((pats.find? fun p => p.1 = [.trailingSlash]).map (·.2)))

def Matches : List Segment → List GoString → Prop
  | [], [] => True
  | [.trailingSlash], _ :: _ => True
  | .literal s' :: more, s :: rest => s' = s ∧ Matches more rest
  | .wildcard :: more, s :: rest => s ≠ [slash] ∧ Matches more rest
  | _, _ => False

instance decidableMatches : ∀ segments path, Decidable (Matches segments path)
  | [], [] => isTrue trivial
  | [], _ :: _ => isFalse id
  | [.trailingSlash], _ :: _ => isTrue trivial
  | [.trailingSlash], [] => isFalse id
  | .trailingSlash :: _ :: _, _ => isFalse (by intro h; cases ‹List GoString› <;> exact h)
  | .literal _ :: _, [] => isFalse id
  | .wildcard :: _, [] => isFalse id
  | .literal s' :: more, s :: rest =>
    haveI := decidableMatches more rest
    inferInstanceAs (Decidable (s' = s ∧ Matches more rest))
  | .wildcard :: more, s :: rest =>
    haveI := decidableMatches more rest
    inferInstanceAs (Decidable (s ≠ [slash] ∧ Matches more rest))

theorem matches_of_literalChild {s : GoString} {p q : List Segment × R} {e : List GoString}
    (h : literalChild s p = some q) (hq : Matches q.1 e) :
    p.2 = q.2 ∧ Matches p.1 (s :: e) := by
  obtain ⟨g, r⟩ := p
  unfold literalChild at h
  split at h
  · rename_i s' m hse
    subst hse
    split at h
    · rename_i hs
      cases h
      exact ⟨rfl, hs, hq⟩
    · cases h
  · cases h

theorem matches_of_wildcardChild {s : GoString} {p q : List Segment × R} {e : List GoString}
    (h : wildcardChild p = some q) (hs : s ≠ [slash]) (hq : Matches q.1 e) :
    p.2 = q.2 ∧ Matches p.1 (s :: e) := by
  obtain ⟨g, r⟩ := p
  unfold wildcardChild at h
  split at h
  · rename_i m hse
    subst hse
    cases h
    exact ⟨rfl, hs, hq⟩
  · cases h

theorem matchPath_sound {a : List (List Segment × R)} {path : List GoString} {r : R}
    (h : matchPath a path = some r) : ∃ p ∈ a, p.2 = r ∧ Matches p.1 path := by
  induction path generalizing a with
  | nil =>
    obtain ⟨p, hp, rfl⟩ := map_eq_some_iff.mp h
    have he : p.1 = [] := by simpa using find?_some hp
    exact ⟨p, mem_of_find?_eq_some hp, rfl, by rw [he]; trivial⟩
  | cons s e ih =>
    rw [matchPath, or_eq_some_iff, or_eq_some_iff] at h
    rcases h with hl | ⟨-, hw | ⟨-, hsl⟩⟩
    · obtain ⟨q, hq, rfl, hm⟩ := ih hl
      obtain ⟨p, hp, hc⟩ := mem_filterMap.mp hq
      exact ⟨p, hp, matches_of_literalChild hc hm⟩
    · split at hw
      · cases hw
      rename_i hs
      obtain ⟨q, hq, rfl, hm⟩ := ih hw
      obtain ⟨p, hp, hc⟩ := mem_filterMap.mp hq
      exact ⟨p, hp, matches_of_wildcardChild hc hs hm⟩
    obtain ⟨p, hp, rfl⟩ := map_eq_some_iff.mp hsl
    have ht : p.1 = [.trailingSlash] := by simpa using find?_some hp
    exact ⟨p, mem_of_find?_eq_some hp, rfl, by rw [ht]; trivial⟩

end Matching

/-! ## 3. Finding the handler -/

variable {H : Type}

def methodNode (routes : List (Route H)) (method : Option String) : List (List Segment × Route H) :=
  (routes.filter fun r => r.pattern.method = method).map fun r => (r.pattern.segments, r)

/-- `matchMethodAndPath`: GET patterns match HEAD requests too. -/
def matchMethodAndPath (routes : List (Route H)) (method : String) (path : List GoString) :
    Option (Route H) :=
  (matchPath (methodNode routes (some method)) path).or
    ((if method = "HEAD" then matchPath (methodNode routes (some "GET")) path else none).or
      (matchPath (methodNode routes none) path))

/-- `exactMatch`: the route's trailing slash, if any, matched nothing. -/
def exactMatch (path : GoString) : Option (Route H) → Bool
  | none => false
  | some r =>
    if r.pattern.segments.getLast? ≠ some .trailingSlash then true
    else path.getLast? = some slash && r.pattern.segments.length = path.count slash

/-- The path without its slash has no exact match and the path with it has. -/
def redirectsToSlash (routes : List (Route H)) (method : String) (path : GoString) : Bool :=
  !exactMatch path (matchMethodAndPath routes method (pathSegments path))
    && path.getLast? ≠ some slash
    && exactMatch (path ++ [slash])
      (matchMethodAndPath routes method (pathSegments (path ++ [slash])))

/-- The path that is looked up: that of CONNECT requests is not cleaned. -/
def lookUpPath (method : String) (escapedPath : GoString) : GoString :=
  if method = "CONNECT" then escapedPath else cleanPath escapedPath

def findHandler (routes : List (Route H)) (method : String) (escapedPath : GoString) : Option H :=
  if redirectsToSlash routes method (lookUpPath method escapedPath) then none
  else if lookUpPath method escapedPath ≠ escapedPath then none
  else (matchMethodAndPath routes method (pathSegments escapedPath)).map Route.handler

variable {routes : List (Route H)} {path : List GoString}

theorem matchPath_methodNode {method : Option String} {r : Route H}
    (h : matchPath (methodNode routes method) path = some r) :
    r ∈ routes ∧ r.pattern.method = method ∧ Matches r.pattern.segments path := by
  obtain ⟨p, hp, rfl, hm⟩ := matchPath_sound h
  obtain ⟨r, hr, rfl⟩ := mem_map.mp hp
  obtain ⟨hmm, hme⟩ := mem_filter.mp hr
  exact ⟨hmm, by simpa using hme, hm⟩

variable {method : String}

theorem matchMethodAndPath_sound {r : Route H}
    (h : matchMethodAndPath routes method path = some r) :
    r ∈ routes ∧ Matches r.pattern.segments path := by
  unfold matchMethodAndPath at h
  rw [or_eq_some_iff, or_eq_some_iff] at h
  rcases h with hm | ⟨-, hh | ⟨-, hn⟩⟩
  · exact (matchPath_methodNode hm).imp_right And.right
  · split at hh
    · exact (matchPath_methodNode hh).imp_right And.right
    · cases hh
  · exact (matchPath_methodNode hn).imp_right And.right

theorem matchMethodAndPath_eq
    (h : ∀ r ∈ routes, r.pattern.method ≠ none → ¬ Matches r.pattern.segments path) :
    matchMethodAndPath routes method path = matchPath (methodNode routes none) path := by
  have hn : ∀ m, matchPath (methodNode routes (some m)) path = none := by
    intro m
    refine eq_none_iff_forall_ne_some.mpr fun r hr => ?_
    obtain ⟨hme, hm, hma⟩ := matchPath_methodNode hr
    exact h r hme (by rw [hm]; simp) hma
  unfold matchMethodAndPath
  rw [hn, hn, ite_self, none_or, none_or]

variable {escapedPath : GoString}

theorem findHandler_eq_some {handler : H}
    (h : findHandler routes method escapedPath = some handler) :
    ∃ r, matchMethodAndPath routes method (pathSegments escapedPath) = some r
      ∧ r.handler = handler := by
  unfold findHandler at h
  split at h
  · cases h
  · simp_all

/-- **Soundness.** A handler that is called is registered under a pattern
that matches the path. -/
theorem findHandler_sound {handler : H} (h : findHandler routes method escapedPath = some handler) :
    ∃ r ∈ routes, r.handler = handler ∧ Matches r.pattern.segments (pathSegments escapedPath) := by
  obtain ⟨r, hm, hh⟩ := findHandler_eq_some h
  obtain ⟨hme, hma⟩ := matchMethodAndPath_sound hm
  exact ⟨r, hme, hh, hma⟩

theorem pathSegments_of_single {name : GoString}
    (h : pathUnescape escapedPath = some (slash :: name)) (hne : name ≠ []) (hn : slash ∉ name) :
    pathSegments escapedPath = [name] ∨ pathSegments escapedPath = [] := by
  unfold pathSegments
  split
  · rename_i hh
    obtain ⟨rest, rfl⟩ : ∃ rest, escapedPath = slash :: rest := by
      cases escapedPath with
      | nil => cases hh
      | cons b rest => exact ⟨rest, by rw [some.inj hh]⟩
    have hr : pathUnescape rest = some name := by
      rw [pathUnescape_cons (by decide)] at h
      obtain ⟨decoded, hd, heq⟩ := map_eq_some_iff.mp h
      rw [hd, (cons.inj heq).2]
    have hra : slash ∉ rest := fun hm => hn (slash_mem_of_pathUnescape hr hm)
    have hs : rest.splitOn slash = [rest] := by
      have hj : ([slash].intercalate [rest]).splitOn slash = [rest] :=
        splitOn_intercalate slash (by simpa using hra) (by simp)
      simpa using hj
    have hne' : rest ≠ [] := by
      rintro rfl
      cases hr
      exact hne rfl
    rw [drop_one, tail_cons, hs]
    simp only [closeSegments, if_neg hne', unescapeSegment, hr, getD_some]
    exact .inl trivial
  · exact .inr rfl

end Daao.Lib.ServeMux
