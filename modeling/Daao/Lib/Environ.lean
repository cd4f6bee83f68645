/-
Daao.Lib.Environ — environments of processes: lists of `name=value` texts.

An entry is read up to its first `=`, so no name contains one; a text
without `=` is no entry. If a name has several entries the last one counts.
That makes an environment a list of pairs, and `lookupEnv` the last pair of
the name.
-/
import Daao.Lib.GoMap
import Mathlib.Data.List.TakeWhile

namespace Daao.Lib

def splitEntry (entry : String) : Option (String × String) :=
  match entry.toList.dropWhile (· ≠ '=') with
  | [] => none
  | _ :: value =>
    some (String.ofList (entry.toList.takeWhile (· ≠ '=')), String.ofList value)

def lookupEnv (env : List String) (name : String) : Option String :=
  lastEntry name (env.filterMap splitEntry)

theorem lookupEnv_append (e v' : List String) (n : String) :
    lookupEnv (e ++ v') n = (lookupEnv v' n).or (lookupEnv e n) := by
  rw [lookupEnv, List.filterMap_append, lastEntry_append]
  rfl

theorem plain_of_splitEntry {e n v : String}
    (h : splitEntry e = some (n, v)) : '=' ∉ n.toList := by
  unfold splitEntry at h
  split at h
  · cases h
  cases h
  rw [String.toList_ofList]
  intro hm
  simpa using List.mem_takeWhile_imp hm

theorem lookupEnv_of_not_plain (e : List String) {n : String} (h : '=' ∈ n.toList) :
    lookupEnv e n = none := by
  refine lastEntry_eq_none fun hm => ?_
  obtain ⟨⟨a', v⟩, he, hn⟩ := List.mem_map.mp hm
  obtain ⟨t, -, hs⟩ := List.mem_filterMap.mp he
  subst hn
  exact plain_of_splitEntry hs h

theorem takeWhile_append_cons {n : List Char} (h : '=' ∉ n) (value : List Char) :
    (n ++ '=' :: value).takeWhile (· ≠ '=') = n ∧
      (n ++ '=' :: value).dropWhile (· ≠ '=') = '=' :: value := by
  have ha : ∀ c ∈ n, decide (c ≠ '=') = true := by grind
  rw [List.takeWhile_append_of_pos ha, List.dropWhile_append_of_pos ha]
  simp

theorem splitEntry_of_plain {n : String} (h : '=' ∉ n.toList) (v : String) :
    splitEntry (n ++ "=" ++ v) = some (n, v) := by
  have ht : (n ++ "=" ++ v).toList = n.toList ++ '=' :: v.toList := by
    simp
  have hs := takeWhile_append_cons h v.toList
  unfold splitEntry
  rw [ht, hs.1, hs.2]
  simp

end Daao.Lib
