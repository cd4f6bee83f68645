/-
Daao.Satellite.PiEnvironment — what the secrets of a deploy command make of
the environment of the Pi process.

The secrets are appended to the environment after the variables the daemon
sets, and the last entry of a name counts. So a secret can take the place
of any of them, `DAAO_ALLOWED_DIRS` and `PATH` included. A secret whose
name is `API_KEY` in upper case is appended once more, as
`ANTHROPIC_API_KEY`, after all the others; the aliases of other names are
never reached, because a name with their prefix is passed over.
-/
import Daao.Lib.Environ
import Daao.Satellite.PiBridge

namespace Daao.Satellite

open Daao.Lib List

/-- The variables that are not the secrets' to set. -/
def protectedNames : List String := ["DAAO_ALLOWED_DIRS", "DAAO_CONTEXT_DIR", "PATH"]

/-- The two orders in which a map of secrets may be read. -/
structure ReadOrder (secrets : Config) where
  first : List (String × String)
  second : List (String × String)
  first_perm : first.Perm secrets.rows
  second_perm : second.Perm secrets.rows

def ReadOrder.value {secrets : Config} (order : ReadOrder secrets) (host : PiHost)
    (name : String) : Option String :=
  lookupEnv (launchEnv host order.first order.second) name

variable (host : PiHost)

def baseValue (name : String) : Option String :=
  lookupEnv (launchEnv host [] []) name

/-- However the map is read: each secret has its value, the protected
variables have the values they have without secrets, and no variable
depends on the order. -/
structure SecretsFaithful (host : PiHost) (secrets : Config) : Prop where
  given : ∀ (order : ReadOrder secrets), ∀ secret ∈ secrets.rows,
    order.value host secret.1 = some secret.2
  protects : ∀ (order : ReadOrder secrets), ∀ name ∈ protectedNames,
    order.value host name = baseValue host name
  ordered : ∀ (order order' : ReadOrder secrets) (name : String),
    order.value host name = order'.value host name

def IsApiKey (secret : String × String) : Prop :=
  host.toUpper secret.1 = "API_KEY"

instance (host : PiHost) (secret : String × String) : Decidable (IsApiKey host secret) :=
  inferInstanceAs (Decidable (_ = _))

/-- No name has a `=`, a protected name comes with the value it has anyway,
and all that becomes `ANTHROPIC_API_KEY` has one value. -/
structure Unambiguous (host : PiHost) (secrets : Config) : Prop where
  plain : ∀ secret ∈ secrets.rows, '=' ∉ secret.1.toList
  protects : ∀ secret ∈ secrets.rows, secret.1 ∈ protectedNames →
    baseValue host secret.1 = some secret.2
  oneKey : ∀ secret ∈ secrets.rows, IsApiKey host secret → ∀ other ∈ secrets.rows,
    (IsApiKey host other ∨ other.1 = "ANTHROPIC_API_KEY") → other.2 = secret.2

/-! ## 1. The two readings -/

theorem secretAlias_eq (secret : String × String) :
    secretAlias host secret
      = if IsApiKey host secret then some ("ANTHROPIC_API_KEY" ++ "=" ++ secret.2) else none := by
  by_cases hk : IsApiKey host secret
  · rw [if_pos hk]
    simp only [secretAlias, show host.toUpper secret.1 = "API_KEY" from hk]
    rfl
  have hk' : host.toUpper secret.1 ≠ "API_KEY" := hk
  unfold secretAlias
  dsimp only
  split
  · rfl
  rename_i hp
  -- the other two names have a prefix that is passed over
  have hne : ∀ name ∈ ["ANTHROPIC_API_KEY", "OPENAI_API_KEY"],
      host.toUpper secret.1 ≠ name := by
    intro name hn heq
    rw [heq] at hp
    simp only [mem_cons, not_mem_nil, or_false] at hn
    rcases hn with rfl | rfl <;> exact hp (by decide)
  rw [if_neg (not_or.mpr ⟨hk', hne _ (by simp)⟩), if_neg (hne _ (by simp))]

variable (secrets : List (String × String))

def aliases : List (String × String) :=
  (secrets.filter (IsApiKey host)).map fun secret => ("ANTHROPIC_API_KEY", secret.2)

theorem filterMap_splitEntry_secrets {secrets : List (String × String)}
    (hp : ∀ secret ∈ secrets, '=' ∉ secret.1.toList) :
    (secrets.map fun secret => secret.1 ++ "=" ++ secret.2).filterMap splitEntry = secrets := by
  induction secrets with
  | nil => rfl
  | cons secret r ih =>
    rw [forall_mem_cons] at hp
    rw [map_cons, filterMap_cons, splitEntry_of_plain hp.1, ih hp.2]

theorem filterMap_splitEntry_aliases :
    (secrets.filterMap (secretAlias host)).filterMap splitEntry = aliases host secrets := by
  induction secrets with
  | nil => rfl
  | cons secret r ih =>
    rw [filterMap_cons, secretAlias_eq, aliases, filter_cons]
    split
    · rename_i hk
      split at hk
      · cases hk
      rename_i hno
      rw [if_neg (by simpa using hno), ih, aliases]
    rename_i e hk
    split at hk
    · rename_i hy
      cases hk
      rw [if_pos (by simpa using hy), filterMap_cons,
        splitEntry_of_plain (by decide), ih, map_cons, aliases]
    · cases hk

theorem lookupEnv_launchEnv {first : List (String × String)}
    (s : List (String × String)) (hp : ∀ secret ∈ first, '=' ∉ secret.1.toList)
    (name : String) :
    lookupEnv (launchEnv host first s) name
      = ((lastEntry name (aliases host s)).or (lastEntry name first)).or
          (baseValue host name) := by
  have hb : baseValue host name = lookupEnv (prependPath host host.environ
      ++ ["DAAO_CONTEXT_DIR=" ++ host.contextDir,
        "DAAO_ALLOWED_DIRS=" ++ String.intercalate host.listSeparator host.allowedWriteDirs])
      name := by
    simp [baseValue, launchEnv]
  rw [launchEnv, lookupEnv_append, lookupEnv_append, ← hb, Option.or_assoc]
  rw [lookupEnv, lookupEnv, filterMap_splitEntry_aliases, filterMap_splitEntry_secrets hp]

/-! ## 2. Aliases -/

theorem mem_aliases {host : PiHost} {secrets : List (String × String)} {n value : String} :
    (n, value) ∈ aliases host secrets ↔
      n = "ANTHROPIC_API_KEY" ∧ ∃ secret ∈ secrets, IsApiKey host secret ∧ secret.2 = value := by
  simp only [aliases, mem_map, mem_filter, decide_eq_true_eq, Prod.mk.injEq]
  constructor
  · rintro ⟨secret, ⟨hm, hk⟩, rfl, rfl⟩
    exact ⟨rfl, secret, hm, hk, rfl⟩
  rintro ⟨rfl, secret, hm, hk, rfl⟩
  exact ⟨secret, ⟨hm, hk⟩, rfl, rfl⟩

theorem lastEntry_aliases_of_ne {n : String}
    (hn : n ≠ "ANTHROPIC_API_KEY") : lastEntry n (aliases host secrets) = none := by
  refine lastEntry_eq_none fun hm => ?_
  obtain ⟨⟨a', v⟩, he, rfl⟩ := mem_map.mp hm
  exact hn (mem_aliases.mp he).1

theorem lastEntry_aliases_concat (r : List (String × String))
    {secret : String × String} (hk : IsApiKey host secret) :
    lastEntry "ANTHROPIC_API_KEY" (aliases host (r ++ [secret])) = some secret.2 := by
  have hl : aliases host (r ++ [secret])
      = aliases host r ++ [("ANTHROPIC_API_KEY", secret.2)] := by
    simp [aliases, filter_append, hk]
  rw [hl, lastEntry_append]
  simp [lastEntry]

/-! ## 3. When the environment is faithful -/

section

variable {host : PiHost} {secrets : Config} (order : ReadOrder secrets)

variable {secret : String × String}

theorem ReadOrder.mem_first :
    secret ∈ order.first ↔ secret ∈ secrets.rows := order.first_perm.mem_iff

theorem ReadOrder.mem_second :
    secret ∈ order.second ↔ secret ∈ secrets.rows := order.second_perm.mem_iff

theorem ReadOrder.value_eq (h : Unambiguous host secrets) (n : String) :
    order.value host n
      = ((lastEntry n (aliases host order.second)).or (lastEntry n secrets.rows)).or
          (baseValue host n) := by
  rw [value, lookupEnv_launchEnv host order.second
    fun secret hs => h.plain secret (order.mem_first.mp hs)]
  rw [← lastEntry_perm order.first_perm.symm secrets.primaryKey]

theorem lastEntry_aliases (h : Unambiguous host secrets) (hs : secret ∈ secrets.rows)
    (hk : IsApiKey host secret) :
    lastEntry "ANTHROPIC_API_KEY" (aliases host order.second) = some secret.2 := by
  refine lastEntry_of_forall ?_ fun v hv => ?_
  · exact mem_map.mpr ⟨("ANTHROPIC_API_KEY", secret.2),
      mem_aliases.mpr ⟨rfl, secret, order.mem_second.mpr hs, hk, rfl⟩, rfl⟩
  obtain ⟨-, t, ho, hk', rfl⟩ := mem_aliases.mp hv
  exact h.oneKey secret hs hk t (order.mem_second.mp ho) (.inl hk')

theorem lastEntry_aliases_of_none
    (hn : ∀ secret ∈ secrets.rows, ¬ IsApiKey host secret) (n : String) :
    lastEntry n (aliases host order.second) = none := by
  refine lastEntry_eq_none fun hm => ?_
  obtain ⟨⟨a', v⟩, he, -⟩ := mem_map.mp hm
  obtain ⟨-, secret, hs, hk, -⟩ := mem_aliases.mp he
  exact hn secret (order.mem_second.mp hs) hk

theorem faithful_of_unambiguous (h : Unambiguous host secrets) : SecretsFaithful host secrets := by
  have hg : ∀ (order : ReadOrder secrets), ∀ secret ∈ secrets.rows,
      order.value host secret.1 = some secret.2 := by
    intro order secret hs
    have ho : lastEntry secret.1 secrets.rows = some secret.2 :=
      (lastEntry_eq_some_iff secrets.primaryKey).mpr hs
    rw [order.value_eq h, ho]
    cases ha : lastEntry secret.1 (aliases host order.second) with
    | none => rfl
    | some value =>
      -- an alias in the way has the secret's value
      obtain ⟨hn, key, hk, hi, rfl⟩ := mem_aliases.mp (mem_of_lastEntry ha)
      rw [h.oneKey key (order.mem_second.mp hk) hi secret hs (.inr hn)]
      rfl
  refine ⟨hg, fun order name hn => ?_, fun order order' name => ?_⟩
  · have hne : name ≠ "ANTHROPIC_API_KEY" := by
      rintro rfl
      revert hn
      decide
    rw [order.value_eq h, lastEntry_aliases_of_ne host _ hne, Option.none_or]
    cases ho : lastEntry name secrets.rows with
    | none => rfl
    | some value =>
      rw [h.protects _ (mem_of_lastEntry ho) hn]
      rfl
  · have ha : lastEntry name (aliases host order.second)
        = lastEntry name (aliases host order'.second) := by
      by_cases hn : name = "ANTHROPIC_API_KEY"
      · subst hn
        by_cases han : ∃ secret ∈ secrets.rows, IsApiKey host secret
        · obtain ⟨secret, hs, hk⟩ := han
          rw [lastEntry_aliases order h hs hk, lastEntry_aliases order' h hs hk]
        · grind [lastEntry_aliases_of_none]
      · rw [lastEntry_aliases_of_ne host _ hn, lastEntry_aliases_of_ne host _ hn]
    rw [order.value_eq h, order'.value_eq h, ha]

theorem unambiguous_of_faithful (h : SecretsFaithful host secrets) : Unambiguous host secrets := by
  have ho : ReadOrder secrets :=
    { first := secrets.rows, second := secrets.rows, first_perm := .refl _, second_perm := .refl _ }
  have hp : ∀ secret ∈ secrets.rows, '=' ∉ secret.1.toList := by
    intro secret hs hm
    have hv := h.given ho secret hs
    rw [ReadOrder.value, lookupEnv_of_not_plain _ hm] at hv
    cases hv
  refine ⟨hp, fun secret hs hn => ?_, ?_⟩
  · rw [← h.protects ho secret.1 hn, h.given ho secret hs]
  -- with the API key read last, `ANTHROPIC_API_KEY` has its value
  have hl : ∀ secret ∈ secrets.rows, IsApiKey host secret → ∀ order : ReadOrder secrets,
      order.value host "ANTHROPIC_API_KEY" = some secret.2 := by
    intro secret hs hk order
    let last : ReadOrder secrets :=
      { ho with
        second := secrets.rows.erase secret ++ [secret]
        second_perm := (perm_append_singleton ..).trans (perm_cons_erase hs).symm }
    rw [h.ordered order last, ReadOrder.value, lookupEnv_launchEnv host last.second
      fun other hot => hp other (last.mem_first.mp hot), lastEntry_aliases_concat host _ hk]
    rfl
  intro secret hs hk other hot hot'
  have hv := hl secret hs hk ho
  rcases hot' with hk' | hn
  · rw [hl other hot hk' ho, Option.some.injEq] at hv
    exact hv
  · grind [h.given]

end

/-- **The environment of the process.** It gives the secrets their values,
leaves the three variables alone and does not depend on the order of the
map just when the secrets are unambiguous. -/
theorem secretsFaithful_iff (host : PiHost) (secrets : Config) :
    SecretsFaithful host secrets ↔ Unambiguous host secrets :=
  ⟨unambiguous_of_faithful, faithful_of_unambiguous⟩

def linuxHost : PiHost :=
  { expandSystemPrompt := id, guardrailsPath := "/opt/daao/extensions/daao-guardrails"
    hasExtension := true, environ := ["HOME=/root", "PATH=/usr/bin"], nodeBinDir := "/opt/node/bin"
    contextDir := "/etc/daao/context", allowedWriteDirs := ["/etc/daao/context", "/tmp"]
    listSeparator := ":", toUpper := fun s => String.ofList (s.toList.map Char.toUpper) }

def openDirs : Config :=
  { rows := [("DAAO_ALLOWED_DIRS", "/")], primaryKey := by decide }

def twoSpellings : Config :=
  { rows := [("api_key", "old"), ("API_KEY", "new")], primaryKey := by decide }

def twoKeys : Config :=
  { rows := [("ANTHROPIC_API_KEY", "first"), ("API_KEY", "other")], primaryKey := by decide }

/-- A secret takes the place of the allowed directories; of two spellings
the one that is read last counts; and an API key takes the place of the
secret called `ANTHROPIC_API_KEY`. -/
theorem secrets_override :
    (lookupEnv (launchEnv linuxHost openDirs.rows openDirs.rows) "DAAO_ALLOWED_DIRS" = some "/" ∧
      baseValue linuxHost "DAAO_ALLOWED_DIRS" = some "/etc/daao/context:/tmp" ∧
      ¬ SecretsFaithful linuxHost openDirs) ∧
    (lookupEnv (launchEnv linuxHost twoSpellings.rows twoSpellings.rows) "ANTHROPIC_API_KEY"
        = some "new" ∧
      lookupEnv (launchEnv linuxHost twoSpellings.rows twoSpellings.rows.reverse)
        "ANTHROPIC_API_KEY" = some "old" ∧
      ¬ SecretsFaithful linuxHost twoSpellings) ∧
    (lookupEnv (launchEnv linuxHost twoKeys.rows twoKeys.rows) "ANTHROPIC_API_KEY" = some "other" ∧
      ¬ SecretsFaithful linuxHost twoKeys) := by
  refine ⟨⟨by decide, by decide, fun h => ?_⟩, ⟨by decide, by decide, fun h => ?_⟩, by decide,
    fun h => ?_⟩
  · exact absurd (h.protects ⟨_, _, .refl _, .refl _⟩ "DAAO_ALLOWED_DIRS" (by decide)) (by decide)
  · exact absurd (h.ordered ⟨_, _, .refl _, .refl _⟩ ⟨_, _, .refl _, reverse_perm _⟩
      "ANTHROPIC_API_KEY") (by decide)
  exact absurd (h.given ⟨_, _, .refl _, .refl _⟩ ("ANTHROPIC_API_KEY", "first") (by decide))
    (by decide)

end Daao.Satellite
