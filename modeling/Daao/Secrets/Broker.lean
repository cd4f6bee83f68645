/-
Daao.Secrets.Broker — secrets and who may have them (`internal/secrets`),
and provider keys saved through the API (`handleSaveProviders` of
`internal/api/provider_config.go`).

The broker looks for a scope of the satellite, then for a global one, and
asks its backend for the secret that the scope refers to. A scope's backend
and lease are not looked at, but a lease that is NULL cannot be scanned.
Several scopes may fit; a query yields the first of `scopes`. The backend
of the broker and that of the provider handler are made one after the
other, each with a key of its own.
-/
import Mathlib.Logic.Function.Basic

namespace Daao.Secrets

/-! ## 1. Scopes -/

structure SecretScope (Id : Type) where
  satelliteID : Option Id
  provider : String
  secretRef : String
  /-- `none` is NULL -/
  leaseTTLMin : Option Int

inductive QueryError where
  | noRows
  | canceled
  | deadlineExceeded
  /-- any other failure, of the database or of `Scan` -/
  | other
  deriving DecidableEq

inductive FetchError where
  | satelliteLookup (e : QueryError)
  | globalLookup (e : QueryError)
  | secretNotFound (provider : String)
  | backend (text : String)
  deriving DecidableEq

variable {Id : Type} [DecidableEq Id]

def SecretScope.fits (scope : SecretScope Id) (provider : String) (satelliteID : Option Id) :
    Bool :=
  scope.provider = provider ∧ scope.satelliteID = satelliteID

def queryScope (scopes : List (SecretScope Id)) (failure : Option QueryError) (provider : String)
    (satelliteID : Option Id) : Except QueryError (SecretScope Id) :=
  match failure with
  | some e => .error e
  | none =>
    match scopes.find? (·.fits provider satelliteID) with
    | none => .error .noRows
    | some scope => if scope.leaseTTLMin = none then .error .other else .ok scope

def findScope (scopes : List (SecretScope Id)) (failure : Option QueryError) (provider : String)
    (satelliteID : Option Id) : Except QueryError (Option (SecretScope Id)) :=
  match queryScope scopes failure provider satelliteID with
  | .ok scope => .ok (some scope)
  | .error .canceled => .error .canceled
  | .error .deadlineExceeded => .error .deadlineExceeded
  | .error _ => .ok none

/-- `FetchSecret` of the broker. The two lookups fail as `failure` says. -/
def brokerFetch (backend : String → Except String String) (scopes : List (SecretScope Id))
    (failure : Bool → Option QueryError) (provider : String) (satelliteID : Id) :
    Except FetchError String :=
  match findScope scopes (failure false) provider (some satelliteID) with
  | .error e => .error (.satelliteLookup e)
  | .ok (some scope) => (backend scope.secretRef).mapError .backend
  | .ok none =>
    match findScope scopes (failure true) provider none with
    | .error e => .error (.globalLookup e)
    | .ok none => .error (.secretNotFound provider)
    | .ok (some scope) => (backend scope.secretRef).mapError .backend

def QueryError.byContext (e : QueryError) : Bool := e = .canceled ∨ e = .deadlineExceeded

section

variable (backend : String → Except String String) (scopes : List (SecretScope Id))
  (failure : Bool → Option QueryError) (provider : String) (satelliteID : Id)

/-- The lookup ends with an error of its context. -/
def Refused (failure : Option QueryError) : Prop := ∃ e ∈ failure, e.byContext = true

/-- The lookup reads the scope. -/
def Reads (failure : Option QueryError) (satelliteID : Option Id) (scope : SecretScope Id) :
    Prop :=
  failure = none ∧ scopes.find? (·.fits provider satelliteID) = some scope ∧
    scope.leaseTTLMin ≠ none

/-- A secret of one of the satellite's own scopes. -/
def Own (secret : String) : Prop :=
  ∃ scope ∈ scopes, scope.fits provider (some satelliteID) = true ∧
    backend scope.secretRef = .ok secret

/-- A satellite with a scope of its own gets the secret of that one or an
error, and not-found means that there is neither this one nor a global
one. -/
structure Scoped : Prop where
  own : ∀ scope ∈ scopes, scope.fits provider (some satelliteID) = true → ∀ secret,
    brokerFetch backend scopes failure provider satelliteID = .ok secret →
      Own backend scopes provider satelliteID secret
  notFound : brokerFetch backend scopes failure provider satelliteID
      = .error (.secretNotFound provider) →
    ∀ scope ∈ scopes, scope.fits provider (some satelliteID) = false ∧
      scope.fits provider none = false

/-- The first lookup reads the satellite's scope or ends by its context. If
neither, the second one must not make up for it: it ends by its context, or
reads a global scope that yields no other secret than the satellite's; and
if there was no scope of the satellite, any global one is read. -/
def LookupsTell : Prop :=
  Refused (failure false) ∨
    (∃ scope, Reads scopes provider (failure false) (some satelliteID) scope)
    ∨ Refused (failure true) ∨ (∃ scope, Reads scopes provider (failure true) none scope ∧
      ((∃ scope ∈ scopes, scope.fits provider (some satelliteID) = true) →
        ∀ secret, backend scope.secretRef = .ok secret →
          Own backend scopes provider satelliteID secret))
    ∨ ∀ scope ∈ scopes, scope.fits provider (some satelliteID) = false ∧
      scope.fits provider none = false

end

/-- What the lookup does with its errors: only those of the context are
reported. -/
theorem findScope_cases (scopes : List (SecretScope Id)) (provider : String)
    (failure : Option QueryError) (satelliteID : Option Id) :
    (Refused failure ∧ ∃ e, findScope scopes failure provider satelliteID = .error e) ∨
    (¬ Refused failure ∧ ∃ scope, Reads scopes provider failure satelliteID scope ∧
      findScope scopes failure provider satelliteID = .ok (some scope)) ∨
    (¬ Refused failure ∧ (∀ scope, ¬ Reads scopes provider failure satelliteID scope) ∧
      findScope scopes failure provider satelliteID = .ok none) := by
  unfold findScope queryScope
  cases failure with
  | some e => cases e <;> simp [Refused, Reads, QueryError.byContext]
  | none =>
    cases hf : scopes.find? (·.fits provider satelliteID) with
    | none => simp [Refused, Reads, hf]
    | some scope =>
      by_cases hl : scope.leaseTTLMin = none <;> simp [Refused, Reads, hf, hl]

theorem mapError_backend (result : Except String String) (provider : String) :
    (∀ s, result.mapError FetchError.backend = .ok s ↔ result = .ok s) ∧
      result.mapError FetchError.backend ≠ .error (.secretNotFound provider) := by
  cases result with
  | error e =>
    refine ⟨fun s => ⟨fun h => ?_, fun h => ?_⟩, fun h => ?_⟩
    all_goals cases h
  | ok t =>
    refine ⟨fun s => ⟨fun h => ?_, fun h => ?_⟩, fun h => ?_⟩
    all_goals cases h
    all_goals rfl

/-- **Scopes.** The satellite's own scope is the only one that counts, and
not-found is told truly, exactly if the two lookups tell what there is. -/
theorem brokerFetch_scoped_iff (backend : String → Except String String)
    (scopes : List (SecretScope Id)) (failure : Bool → Option QueryError) (provider : String)
    (satelliteID : Id) :
    Scoped backend scopes failure provider satelliteID ↔
      LookupsTell backend scopes failure provider satelliteID := by
  rw [LookupsTell]
  obtain ⟨hr, e, he⟩ | ⟨-, scope, hs, he⟩ | ⟨hr, hno, he⟩ :=
    findScope_cases scopes provider (failure false) (some satelliteID)
  · refine ⟨fun _ => .inl hr, fun _ => ⟨?_, ?_⟩⟩ <;> simp [brokerFetch, he]
  · refine ⟨fun _ => .inr (.inl ⟨scope, hs⟩), fun _ => ⟨fun _ _ _ secret h => ?_, fun h => ?_⟩⟩
    all_goals simp only [brokerFetch, he] at h
    · have hfit := List.find?_some hs.2.1
      exact ⟨scope, List.mem_of_find?_eq_some hs.2.1, hfit,
        ((mapError_backend _ provider).1 secret).mp h⟩
    · exact absurd h (mapError_backend _ provider).2
  -- the first lookup has found nothing, so the second one decides
  simp only [hr, hno, exists_false, false_or]
  obtain ⟨hr', e, he'⟩ | ⟨hr', scope, hs, he'⟩ | ⟨hr', hno', he'⟩ :=
    findScope_cases scopes provider (failure true) none
  · refine ⟨fun _ => .inl hr', fun _ => ⟨?_, ?_⟩⟩ <;> simp [brokerFetch, he, he']
  · have hf : brokerFetch backend scopes failure provider satelliteID
        = (backend scope.secretRef).mapError .backend := by
      simp only [brokerFetch, he, he']
    constructor
    · intro h
      refine .inr (.inl ⟨scope, hs, ?_⟩)
      rintro ⟨own, hm, ho⟩ secret hb
      exact h.own own hm ho secret (hf ▸ ((mapError_backend _ provider).1 secret).mpr hb)
    · rintro (h | ⟨s, h, hown⟩ | h)
      · exact absurd h hr'
      · obtain rfl : s = scope := Option.some.inj (h.2.1.symm.trans hs.2.1)
        refine ⟨fun own hm ho secret hb => ?_, fun h => ?_⟩
        · exact hown ⟨own, hm, ho⟩ secret (((mapError_backend _ provider).1 secret).mp (hf ▸ hb))
        · exact absurd (hf ▸ h) (mapError_backend _ provider).2
      · have hm := List.mem_of_find?_eq_some hs.2.1
        have hfit := List.find?_some hs.2.1
        simp [(h scope hm).2] at hfit
  · have hf : brokerFetch backend scopes failure provider satelliteID
        = .error (.secretNotFound provider) := by
      simp only [brokerFetch, he, he']
    simp only [hr', hno', false_and, exists_false, false_or]
    refine ⟨fun h => h.notFound hf, fun h => ⟨fun own hm ho => ?_, fun _ => h⟩⟩
    simp [(h own hm).1] at ho

def keys : List (SecretScope Nat) :=
  [⟨some 7, "openai", "own", some 0⟩, ⟨none, "openai", "shared", some 0⟩]

/-- A first lookup that fails otherwise gives the satellite the shared
secret, and if both do, there is no secret at all. -/
theorem brokerFetch_other :
    brokerFetch .ok keys (fun global => if global then none else some .other) "openai" 7
        = .ok "shared"
      ∧ brokerFetch .ok keys (fun _ => some .other) "openai" 7
        = .error (.secretNotFound "openai") :=
  ⟨rfl, rfl⟩

/-! ## 2. Keys saved through the API -/

/-- The functions of `crypto` that are used, with what is assumed of them. -/
structure Crypto (Key Nonce Text Hash : Type) where
  deriveMasterKey : String → Key
  hashKey : String → Hash
  hashKey_injective : Function.Injective hashKey
  encrypt : Key → Nonce → String → Text
  decrypt : Key → Nonce → Text → Option String
  decrypt_encrypt : ∀ key nonce value, decrypt key nonce (encrypt key nonce value) = some value
  decrypt_other : ∀ key key' nonce value, key' ≠ key →
    decrypt key' nonce (encrypt key nonce value) = none

variable {Key Nonce Text Hash : Type} [DecidableEq Hash] (crypto : Crypto Key Nonce Text Hash)

/-- The master key of `NewLocalBackend`; an unset variable reads as the
empty string. -/
def newLocalBackend (daaoSecretKey : String) (randomKey : Key) : Key :=
  if daaoSecretKey = "" then randomKey else crypto.deriveMasterKey daaoSecretKey

abbrev EncryptedSecrets (Nonce Text Hash : Type) := Hash → Option (Text × Nonce)

def fetchSecret (masterKey : Key) (db : EncryptedSecrets Nonce Text Hash) (ref : String) :
    Except String String :=
  if ref = "" then .error "secret reference cannot be empty"
  else match db (crypto.hashKey ref) with
    | none => .error "secret not found"
    | some (cipherText, nonce) =>
      match crypto.decrypt masterKey nonce cipherText with
      | none => .error "failed to decrypt secret"
      | some value => .ok value

/-- The nonce that is drawn, and whether the database fails. -/
def storeSecret (masterKey : Key) (db : EncryptedSecrets Nonce Text Hash) (ref value : String)
    (nonce : Nonce) (fails : Bool) : Except String (EncryptedSecrets Nonce Text Hash) :=
  if ref = "" then .error "secret reference cannot be empty"
  else if value = "" then .error "secret value cannot be empty"
  else if fails then .error "failed to store encrypted secret"
  else .ok (Function.update db (crypto.hashKey ref)
    (some (crypto.encrypt masterKey nonce value, nonce)))

def providerSecretRef (providerID : String) : String := "provider_api_key:" ++ providerID

structure ProviderConfig (Nonce : Type) where
  id : String
  apiKey : String
  nonce : Nonce
  fails : Bool

/-- The stores of `handleSaveProviders`, which ends at the first one that
fails. -/
def handleSaveProviders (masterKey : Key) (db : EncryptedSecrets Nonce Text Hash) :
    List (ProviderConfig Nonce) → EncryptedSecrets Nonce Text Hash
  | [] => db
  | p :: providers =>
    if p.apiKey = "" then handleSaveProviders masterKey db providers
    else
      match storeSecret crypto masterKey db (providerSecretRef p.id) p.apiKey p.nonce p.fails with
      | .error _ => db
      | .ok db => handleSaveProviders masterKey db providers

/-- The value that was saved last for a provider, after a request. -/
def savedLast (id : String) (last : Option String) : List (ProviderConfig Nonce) → Option String
  | [] => last
  | p :: providers =>
    if p.apiKey = "" then savedLast id last providers
    else if p.fails then last
    else savedLast id (if p.id = id then some p.apiKey else last) providers

/-- The database holds the value under this key. -/
def Holds (masterKey : Key) (id : String) (db : EncryptedSecrets Nonce Text Hash)
    (last : Option String) : Prop :=
  ∀ value ∈ last, ∃ nonce, db (crypto.hashKey (providerSecretRef id))
    = some (crypto.encrypt masterKey nonce value, nonce)

variable {crypto} {masterKey : Key} {id : String} {db : EncryptedSecrets Nonce Text Hash}
  {last : Option String}

theorem providerSecretRef_ne (id : String) : providerSecretRef id ≠ "" := by
  simp [providerSecretRef]

section

variable (h : Holds crypto masterKey id db last)

include h

theorem holds_update (p : ProviderConfig Nonce) :
    Holds crypto masterKey id
      (Function.update db (crypto.hashKey (providerSecretRef p.id))
        (some (crypto.encrypt masterKey p.nonce p.apiKey, p.nonce)))
      (if p.id = id then some p.apiKey else last) := by
  intro v hv
  by_cases hid : p.id = id
  · simp only [hid, if_true, Option.mem_some_iff] at hv
    exact ⟨p.nonce, by rw [hid, Function.update_self, hv]⟩
  have hne : crypto.hashKey (providerSecretRef id) ≠ crypto.hashKey (providerSecretRef p.id) := by
    intro heq
    have hr := crypto.hashKey_injective heq
    simp only [providerSecretRef, String.append_right_inj] at hr
    exact hid hr.symm
  rw [Function.update_of_ne hne]
  exact h v (by simpa [hid] using hv)

theorem holds_handleSaveProviders {r : List (ProviderConfig Nonce)} :
    Holds crypto masterKey id (handleSaveProviders crypto masterKey db r)
      (savedLast id last r) := by
  induction r generalizing db last with
  | nil => exact h
  | cons p r ih =>
    rw [handleSaveProviders, savedLast]
    split
    · exact ih h
    rename_i hk
    cases hf : p.fails with
    | true => simpa [storeSecret, providerSecretRef_ne, hk] using h
    | false => simpa [storeSecret, providerSecretRef_ne, hk] using ih (holds_update h p)

theorem holds_requests {r : List (List (ProviderConfig Nonce))} :
    Holds crypto masterKey id (r.foldl (handleSaveProviders crypto masterKey) db)
      (r.foldl (savedLast id) last) := by
  induction r generalizing db last with
  | nil => exact h
  | cons re r ih => exact ih (holds_handleSaveProviders h)

end

/-- After any requests the provider handler finds the key that was saved
last; and the broker of the same process finds it just when the two
backends have the same key, which they have if the variable is set. -/
theorem fetchSecret_saved (crypto : Crypto Key Nonce Text Hash) (daaoSecretKey : String)
    (randomKey randomKey' : Key) (db : EncryptedSecrets Nonce Text Hash)
    (requests : List (List (ProviderConfig Nonce))) (id value : String)
    (hsaved : requests.foldl (savedLast id) none = some value) :
    let key := newLocalBackend crypto daaoSecretKey randomKey
    let db' := requests.foldl (handleSaveProviders crypto key) db
    fetchSecret crypto key db' (providerSecretRef id) = .ok value ∧
      (fetchSecret crypto (newLocalBackend crypto daaoSecretKey randomKey') db'
          (providerSecretRef id) = .ok value ↔
        daaoSecretKey ≠ "" ∨ randomKey' = randomKey) := by
  intro key db'
  obtain ⟨nonce, hr⟩ : ∃ nonce, db' (crypto.hashKey (providerSecretRef id))
      = some (crypto.encrypt key nonce value, nonce) :=
    holds_requests (fun _ h => by cases h) value hsaved
  have hf : ∀ key', fetchSecret crypto key' db' (providerSecretRef id) = .ok value
      ↔ key' = key := by
    intro key'
    rw [fetchSecret, if_neg (providerSecretRef_ne id), hr]
    by_cases hk : key' = key
    · simp [hk, crypto.decrypt_encrypt]
    · simp [hk, crypto.decrypt_other key key' nonce value hk]
  refine ⟨(hf key).mpr rfl, (hf _).trans ?_⟩
  simp only [key, newLocalBackend]
  split <;> simp_all

/-- A cipher that carries its key. -/
def openCrypto : Crypto Bool Unit (Bool × String) String where
  deriveMasterKey _ := true
  hashKey ref := ref
  hashKey_injective := Function.injective_id
  encrypt key _ value := (key, value)
  decrypt key _ text := if text.1 = key then some text.2 else none
  decrypt_encrypt := by simp
  decrypt_other := by simp [eq_comm]

def saveTwice : List (List (ProviderConfig Unit)) :=
  [[⟨"openai", "k1", (), false⟩], [⟨"openai", "k2", (), false⟩]]

theorem fetchSecret_saved_twice :
    fetchSecret openCrypto true
        (saveTwice.foldl (handleSaveProviders openCrypto true) fun _ => none)
        (providerSecretRef "openai") = .ok "k2" :=
  (fetchSecret_saved openCrypto "secret" false true (fun _ => none) saveTwice "openai" "k2" rfl).1

/-- Without the variable, the broker cannot decrypt what the API saved. -/
theorem fetchSecret_unset :
    fetchSecret openCrypto (newLocalBackend openCrypto "" true)
        (handleSaveProviders openCrypto (newLocalBackend openCrypto "" false) (fun _ => none)
          [⟨"openai", "k1", (), false⟩])
        (providerSecretRef "openai") = .error "failed to decrypt secret" := by
  rfl

end Daao.Secrets
