/-
Daao.Api.UserHandlersTheorems — owners are not kept, and an invite takes
over the account that has its email.

Two statements take something from the column of roles, a role change and
a deletion, and neither handler looks at how many owners there are.
`CreateWithPassword` does not fail on an email that is there. It fails on
the index of identities, so the email of an account leads to a conflict
only if yet another account holds its local identity.
-/
import Daao.Api.UserHandlers
import Mathlib.Data.List.Infix

namespace Daao.Api

open Daao.Lib Daao.Auth List

/-! ## 1. Owners -/

section

variable {Id : Type}

def roles (t : Users Id) : List Role := t.rows.map UserRow.role

def HasOwner (t : Users Id) : Prop := Role.owner ∈ roles t

instance (t : Users Id) : Decidable (HasOwner t) :=
  inferInstanceAs (Decidable (Role.owner ∈ roles t))

variable {t t' : Users Id}

theorem hasOwner_iff : HasOwner t ↔ ∃ r ∈ t.rows, r.role = .owner := mem_map

variable [DecidableEq Id]

theorem roles_of_ofRows {p : UserRow Id → Prop} [DecidablePred p]
    {f : UserRow Id → UserRow Id} (hf : ∀ r, (f r).role = r.role)
    (h : Users.ofRows (t.rows.map fun r => if p r then f r else r) = some t') :
    roles t' = roles t := by
  rw [roles, Users.rows_of_ofRows h]
  exact map_column_ite UserRow.role p f hf t.rows

theorem roles_insert {r : UserRow Id} (h : t.insert r = some t') :
    roles t' = roles t ++ [r.role] := by
  rw [roles, Users.rows_of_ofRows h, map_append]
  rfl

theorem roles_createWithPassword (t : Users Id) (email name : String) (role : Role)
    (passwordHash : String) (newID : Id) (now : Nat) :
    roles t <+: roles (createWithPassword t email name role passwordHash newID now).1 := by
  unfold createWithPassword
  split
  · rename_i email name _ _
    cases t.rows.find? fun row => row.email = email with
    | none =>
      cases hi : t.insert (localRow newID email name role passwordHash now) with
      | none => exact prefix_rfl
      | some t' => exact ⟨_, (roles_insert hi).symm⟩
    | some row =>
      cases hu : t.updateByEmail email (UserRow.withPassword email passwordHash now) with
      | none => exact prefix_rfl
      | some t' =>
        have hr : roles t' = roles t := roles_of_ofRows (by intro r; rfl) hu
        exact hr ▸ prefix_rfl
  · exact prefix_rfl

theorem roles_upsertFromOIDC (t : Users Id) (provider providerID email name avatarURL : String)
    (newID : Id) (now : Nat) :
    roles t <+: roles (upsertFromOIDC t provider providerID email name avatarURL newID now).1 := by
  unfold upsertFromOIDC
  split
  · cases hu : t.updateIdentity provider providerID
      (UserRow.withProfile email name avatarURL now) with
    | none => exact prefix_rfl
    | some t' =>
      have hr : roles t' = roles t := roles_of_ofRows (by intro r; rfl) hu
      simp only
      cases t'.findIdentity provider providerID <;> exact hr ▸ prefix_rfl
  · cases hi : t.insert (oidcRow newID provider providerID email name avatarURL now) with
    | none => exact prefix_rfl
    | some t' => exact ⟨_, (roles_insert hi).symm⟩
  · exact prefix_rfl

theorem roles_resolveUser (p : String → Option Id) (oi : Bool) (t : Users Id)
    (s : String) (newID : Id) (now : Nat) :
    roles t <+: roles (resolveUser p oi t s newID now).1 := by
  unfold resolveUser
  split
  · exact roles_upsertFromOIDC t "oidc" s "" "" "" newID now
  · split <;> exact prefix_rfl

omit [DecidableEq Id] in
theorem hasOwner_of_roles (h : roles t <+: roles t') (ht : HasOwner t) : HasOwner t' := h.subset ht

theorem rows_updateRole (t : Users Id) (id : Id) (role : Role) (now : Nat) :
    (updateRole t id role now).rows
      = t.rows.map fun row => if row.id = id then { row with role := role, updatedAt := now }
          else row := by
  have hk {β : Type} (column : UserRow Id → β)
      (hc : ∀ row, column { row with role := role, updatedAt := now } = column row) :=
    map_column_ite column (fun row => row.id = id)
      (fun row => { row with role := role, updatedAt := now }) hc t.rows
  have hi : ∀ rows : List (UserRow Id),
      rows.filterMap UserRow.identity = (rows.map UserRow.identity).reduceOption := by
    intro rows
    change _ = (rows.map UserRow.identity).filterMap fun identity => identity
    rw [filterMap_map]
    rfl
  rw [updateRole, Users.updateByID, Users.ofRows, dif_pos]
  · rfl
  refine ⟨?_, ?_, ?_⟩
  · rw [hk UserRow.id (by intro row; rfl)]
    exact t.primaryKey
  · rw [hk UserRow.email (by intro row; rfl)]
    exact t.uniqueEmail
  rw [hi, hk UserRow.identity (by intro row; rfl), ← hi]
  exact t.uniqueIdentity

namespace UserHandlers

/-- The statement takes the role of every owner there is. -/
def Write.TakesLastOwner (t : Users Id) : Write Id → Prop
  | .createWithPassword .. => False
  | .updateRole id role => role ≠ .owner ∧ ∀ row ∈ t.rows, row.role = .owner → row.id = id
  | .delete id => ∀ row ∈ t.rows, row.role = .owner → row.id = id

instance (t : Users Id) (w : Write Id) : Decidable (w.TakesLastOwner t) := by
  cases w <;> dsimp only [Write.TakesLastOwner] <;> infer_instance

variable {id : Id} {t : Users Id}

theorem hasOwner_updateRole_iff (ht : HasOwner t) {role : Role} {now : Nat} :
    HasOwner (updateRole t id role now) ↔ ¬ (Write.updateRole id role).TakesLastOwner t := by
  -- an owner there is now was one before, or was made one
  have hr : ∀ r : UserRow Id,
      (if r.id = id then { r with role := role, updatedAt := now } else r).role
        = if r.id = id then role else r.role := by
    intro r
    split <;> rfl
  rw [hasOwner_iff] at ht ⊢
  simp only [rows_updateRole, mem_map, exists_exists_and_eq_and, hr, Write.TakesLastOwner]
  grind

theorem hasOwner_deleteByID_iff :
    HasOwner (t.deleteByID id) ↔ ¬ (Write.delete id).TakesLastOwner t := by
  simp only [hasOwner_iff, Users.deleteByID, mem_filter, Write.TakesLastOwner, decide_eq_true_eq]
  grind

theorem not_takesLastOwner_of_lacks (ht : HasOwner t) (hl : t.lacks id = true) :
    ¬ ∀ r ∈ t.rows, r.role = .owner → r.id = id := by
  obtain ⟨owner, ho, hr⟩ := hasOwner_iff.mp ht
  intro ha
  have hid : owner.id ≠ id := by simpa using all_eq_true.mp hl owner ho
  exact hid (ha owner ho hr)

theorem hasOwner_perform_iff (ht : HasOwner t) (w : Write Id) (newID : Id) (now : Nat) :
    HasOwner (w.perform t newID now).1 ↔ ¬ w.TakesLastOwner t := by
  cases w with
  | createWithPassword email name role tempPassword ph =>
    refine iff_of_true ?_ not_false
    exact hasOwner_of_roles (roles_createWithPassword t email name role ph newID now) ht
  | updateRole id role =>
    simp only [Write.perform]
    cases hl : t.lacks id with
    | true =>
      exact iff_of_true ht fun hta => not_takesLastOwner_of_lacks ht hl hta.2
    | false => exact hasOwner_updateRole_iff ht
  | delete id =>
    simp only [Write.perform]
    cases hl : t.lacks id with
    | true => exact iff_of_true ht (not_takesLastOwner_of_lacks ht hl)
    | false => exact hasOwner_deleteByID_iff

/-- The next action runs no statement that takes the last owner. -/
def SparesLastOwner (s : UserAdmin Id) : Act Id → Prop
  | .begin .. => True
  | .write k .. => ∀ w ∈ s.underway[k]?, ¬ w.TakesLastOwner s.users

theorem hasOwner_begin (e : Server Id) {s : UserAdmin Id} (hs : HasOwner s.users)
    (u : String) (r : Request) (newID : Id) (now : Nat) :
    HasOwner (s.begin e u r newID now).users := by
  have hr := hasOwner_of_roles (roles_resolveUser e.parseUUID e.oidcIssuer s.users u newID now) hs
  simp only [UserAdmin.begin]
  split <;> exact hr

/-- **Owners.** From every state with an owner, a run has an owner in every
state it reaches just when no statement of it, on the table it finds, is a
role change away from `owner` or a deletion of the only owner. -/
theorem hasOwner_states_iff (server : Server Id) (s : UserAdmin Id) (hs : HasOwner s.users)
    (acts : List (Act Id)) :
    (∀ s' ∈ states (step server) s acts, HasOwner s'.users)
      ↔ Along (step server) SparesLastOwner s acts := by
  have he : ∀ (s₀ : UserAdmin Id) (a : Act Id), HasOwner s₀.users →
      (SparesLastOwner s₀ a ↔ ∀ s₁ ∈ step server s₀ a, HasOwner s₁.users) := by
    intro s₀ a hs₀
    cases a with
    | begin sub req newID now =>
      refine iff_of_true trivial fun s₁ hs₁ => ?_
      cases hs₁
      exact hasOwner_begin server hs₀ sub req newID now
    | write k newID now =>
      simp only [SparesLastOwner, step, Option.mem_def, Option.map_eq_some_iff,
        forall_exists_index, and_imp]
      constructor
      · grind [hasOwner_perform_iff]
      · grind [hasOwner_perform_iff]
  exact forall_states_iff_along he hs

end UserHandlers

end

namespace UserHandlers

/-! ### Two runs without an owner at the end -/

def markedBcrypt : Bcrypt where
  generate password _ := "$" ++ password
  compare hash password := hash = "$" ++ password
  compare_generate := by simp
  generate_ne_empty := by
    intro password _ h
    simpa using congrArg String.length h

def localServer : Server Nat where
  bcrypt := markedBcrypt
  parseUUID s := ["0", "1", "2"].idxOf? s
  uuidString n := ["0", "1", "2"].getD n ""
  oidcIssuer := false

def account (id : Nat) (email : String) (role : Role) : UserRow Nat :=
  localRow id email "" role "$" 0

def oneOwner : Users Nat :=
  { rows := [account 1 "a@x" .owner], primaryKey := by decide, uniqueEmail := by decide
    uniqueIdentity := by decide }

def twoOwners : Users Nat :=
  { rows := [account 1 "a@x" .owner, account 2 "b@x" .owner], primaryKey := by decide
    uniqueEmail := by decide, uniqueIdentity := by decide }

def demoteSelf : List (Act Nat) :=
  [.begin "1" (.changeRole ["1", "role"] (some (.obj [("role", .str "viewer")]))) 0 1,
   .write 0 0 2]

def deleteEachOther : List (Act Nat) :=
  [.begin "1" (.deleteUser "2") 0 1, .begin "2" (.deleteUser "1") 0 1, .write 0 0 2, .write 0 0 2]

/-- The only owner becomes a viewer; two owners delete each other, each
checked while the other is still there. -/
theorem owner_lost :
    (∃ s ∈ run (step localServer) { users := oneOwner, underway := [] } demoteSelf,
        ¬ HasOwner s.users) ∧
      ∃ s ∈ run (step localServer) { users := twoOwners, underway := [] } deleteEachOther,
        ¬ HasOwner s.users := by
  refine ⟨⟨_, rfl, ?_⟩, ⟨_, rfl, ?_⟩⟩ <;> decide

/-- Two owners, of whom one makes the other a viewer. -/
theorem hasOwner_states_demoteOther :
    HasOwner twoOwners ∧
      ∀ s ∈ states (step localServer) { users := twoOwners, underway := [] }
        [.begin "1" (.changeRole ["2", "role"] (some (.obj [("role", .str "viewer")]))) 0 1,
         .write 0 0 2],
        HasOwner s.users := by
  have ho : HasOwner twoOwners := by decide
  refine ⟨ho, (hasOwner_states_iff localServer _ ho _).mpr ⟨trivial, ?_⟩⟩
  rintro _ ⟨⟩
  refine ⟨?_, fun _ _ => trivial⟩
  rintro w ⟨⟩
  decide

end UserHandlers

/-! ## 2. Invites -/

/-! ### What the columns hold -/

theorem varchar_localPart {n : Nat} {email : String} (h : (varchar n email).isSome) :
    (varchar n (UserHandlers.localPart email)).isSome := by
  have hp : email.toList.takeWhile (· ≠ '@') <+: email.toList := takeWhile_prefix _
  unfold varchar at h ⊢
  simp only [UserHandlers.localPart, String.toList_ofList, String.length_ofList]
  by_cases hn : Char.ofNat 0 ∈ email.toList
  · simp [hn] at h
  rw [if_neg fun hm => hn (hp.subset hm)]
  split
  · rfl
  -- the email is longer still, and what it has past the limit is spaces
  have he : ¬ email.length ≤ n := by
    have := hp.length_le
    rw [String.length_toList] at this
    omega
  have hs : (email.toList.drop n).all (· = ' ') := by grind
  rw [if_pos]
  · rfl
  rw [all_eq_true] at hs ⊢
  exact fun c hc => hs c ((List.IsPrefix.drop hp n).subset hc)

section

variable {Id : Type} [DecidableEq Id]

/-! ### The two ways through the statement -/

open UserRow

theorem ofRows_isSome_iff {r : List (UserRow Id)} :
    (Users.ofRows r).isSome ↔ (r.map UserRow.id).Nodup ∧ (r.map email).Nodup
      ∧ (r.filterMap identity).Nodup := by
  unfold Users.ofRows
  split
  · rename_i ha
    exact iff_of_true rfl ha
  · grind

variable {email : String} {t : Users Id}

theorem insert_localRow_isSome_iff {newID : Id}
    (name ph : String) (role : Role) (now : Nat) (hid : ∀ r ∈ t.rows, r.id ≠ newID)
    (he : ∀ r ∈ t.rows, r.email ≠ email) :
    (t.insert (localRow newID email name role ph now)).isSome
      ↔ ∀ r ∈ t.rows, r.identity ≠ some ("local", email) := by
  have hids : ((t.rows ++ [localRow newID email name role ph now]).map
      UserRow.id).Nodup := by
    rw [map_append, nodup_append_comm]
    exact nodup_cons.mpr ⟨by simpa [localRow] using hid, t.primaryKey⟩
  have hem : ((t.rows ++ [localRow newID email name role ph now]).map
      UserRow.email).Nodup := by
    rw [map_append, nodup_append_comm]
    exact nodup_cons.mpr ⟨by simpa [localRow] using he, t.uniqueEmail⟩
  have hi : ((t.rows ++ [localRow newID email name role ph now]).filterMap
      identity).Nodup ↔ ∀ r ∈ t.rows, r.identity ≠ some ("local", email) := by
    rw [filterMap_append, nodup_append_comm]
    change (("local", email) :: t.rows.filterMap identity).Nodup ↔ _
    simp [nodup_cons, t.uniqueIdentity]
  rw [Users.insert, ofRows_isSome_iff, ← hi]
  exact ⟨fun h => h.2.2, fun h => ⟨hids, hem, h⟩⟩

omit [DecidableEq Id] in
theorem rows_split_of_email (hf : ∃ r ∈ t.rows, r.email = email) :
    ∃ b a f, t.rows = b ++ a :: f ∧ a.email = email ∧
      ∀ r ∈ b ++ f, r.email ≠ email := by
  obtain ⟨a, ha, he⟩ := hf
  obtain ⟨b, f, hs⟩ := append_of_mem ha
  have hu := t.uniqueEmail
  rw [hs, map_append, map_cons, nodup_middle, nodup_cons, ← map_append] at hu
  refine ⟨b, a, f, hs, he, fun r hr heq => ?_⟩
  exact hu.1 (mem_map.mpr ⟨r, hr, heq.trans he.symm⟩)

omit [DecidableEq Id] in
theorem map_ite_split {b after : List (UserRow Id)} {a : UserRow Id}
    (f : UserRow Id → UserRow Id) (he : a.email = email)
    (ho : ∀ r ∈ b ++ after, r.email ≠ email) :
    ((b ++ a :: after).map fun r => if r.email = email then f r else r)
      = b ++ f a :: after := by
  have hs : ∀ rows : List (UserRow Id), rows ⊆ b ++ after →
      (rows.map fun r => if r.email = email then f r else r) = rows := by
    intro rows hr
    conv_rhs => rw [← map_id rows]
    exact map_congr_left fun r hro => if_neg (ho r (hr hro))
  rw [map_append, map_cons, if_pos he,
    hs b (subset_append_left _ _), hs after (subset_append_right _ _)]

theorem updateByEmail_isSome_iff (ph : String) (now : Nat) (hf : ∃ r ∈ t.rows, r.email = email) :
    (t.updateByEmail email (withPassword email ph now)).isSome
      ↔ ∀ r ∈ t.rows, r.email ≠ email → r.identity ≠ some ("local", email) := by
  obtain ⟨b, c, a, hs, he, ho⟩ := rows_split_of_email hf
  have hids := map_column_ite UserRow.id (fun r => r.email = email)
    (withPassword email ph now) (by intro r; rfl) t.rows
  have hem := map_column_ite UserRow.email (fun r => r.email = email)
    (withPassword email ph now) (by intro r; rfl) t.rows
  have hr : ((b ++ a).filterMap identity).Nodup := by
    refine t.uniqueIdentity.sublist (List.Sublist.filterMap _ ?_)
    rw [hs]
    exact List.Sublist.append_left (sublist_cons_self _ _) _
  have hm : ∀ r, r ∈ b ++ a ↔ r ∈ t.rows ∧ r.email ≠ email := by grind
  have hi : ((b ++ c.withPassword email ph now :: a).filterMap
      identity).Nodup ↔
        ∀ r ∈ t.rows, r.email ≠ email → r.identity ≠ some ("local", email) := by
    rw [filterMap_append]
    change (b.filterMap identity ++ ("local", email) :: a.filterMap identity).Nodup ↔ _
    rw [nodup_middle, nodup_cons, ← filterMap_append, and_iff_left hr, mem_filterMap]
    simp [hm]
  rw [Users.updateByEmail, ofRows_isSome_iff, hids, hem, hs, map_ite_split _ he ho, hi, ← hs]
  exact ⟨fun h => h.2.2, fun h => ⟨t.primaryKey, t.uniqueEmail, h⟩⟩

end

namespace UserHandlers

variable {Id : Type} [DecidableEq Id]

/-! ### What an invite is for -/

/-- An invite of `email` leads from `t` to `out`. -/
structure Invites (bcrypt : Bcrypt) (t : Users Id) (email : String) (role : Role)
    (out : Users Id × Response Id) : Prop where
  /-- an account is left alone, and the inviter gets no password for it -/
  existing : (∃ row ∈ t.rows, row.email = email) →
    out.2.status = 409 ∧ out.1.rows = t.rows ∧
      ∀ password ∈ out.2.temporaryPassword, verifyPassword bcrypt out.1 email password = none
  /-- a new email gets one account, and nothing else changes -/
  added : (∀ row ∈ t.rows, row.email ≠ email) →
    ∃ row, out.1.rows = t.rows ++ [row] ∧ row.email = email ∧ row.role = role

/-- A request that the checks refuse changes nothing; one that they admit
is an invite of its email with its role. -/
def InviteAnswered (bcrypt : Bcrypt) (user : Option AuthUser) (body : Option Json) (t : Users Id)
    (out : Users Id × Response Id) : Prop :=
  match (checkInvite user body : Except (Response Id) (String × Role)) with
  | .error response => out = (t, response)
  | .ok (email, role) => Invites bcrypt t email role out

/-- The email fits its column, and it belongs to an account exactly if
another account holds its local identity. -/
def IdentityAgrees (t : Users Id) (email : String) : Prop :=
  varchar 255 email = some email ∧
    ((∃ row ∈ t.rows, row.email = email) ↔
      ∃ row ∈ t.rows, row.email ≠ email ∧ row.identity = some ("local", email))

def InviteAgrees (user : Option AuthUser) (body : Option Json) (t : Users Id) : Prop :=
  match (checkInvite user body : Except (Response Id) (String × Role)) with
  | .error _ => True
  | .ok (email, _) => IdentityAgrees t email

omit [DecidableEq Id] in
theorem inviteResponse_scanUser (tempPassword : String) (r : UserRow Id) :
    (inviteResponse tempPassword (scanUser userColumns r)).status ≠ 409 := by
  unfold scanUser
  rw [if_neg (by decide)]
  split <;> simp [inviteResponse, speaksOfDuplicate, jsonError]

theorem utf8ByteSize_ofList_of_ascii {a : List Char} (h : ∀ c ∈ a, c.utf8Size = 1) :
    (String.ofList a).utf8ByteSize = a.length := by
  induction a with
  | nil => rfl
  | cons c a ih =>
    rw [String.ofList_cons, String.utf8ByteSize_append, ih fun d hd => h d (mem_cons_of_mem _ hd),
      String.utf8ByteSize_singleton, h c mem_cons_self, length_cons, add_comm]

theorem exists_hashPassword (bcrypt : Bcrypt) (d : Nat → Fin passwordChars.length) (s : Nat) :
    ∃ hash, hashPassword bcrypt (generateTempPassword 16 d) s = some hash := by
  -- by the list's own test: characters are a finite type, and `decide` might go through it
  have ha : passwordChars.all (fun c => c.utf8Size = 1) = true := by decide
  have hs : (generateTempPassword 16 d).utf8ByteSize = 16 := by
    grind [utf8ByteSize_ofList_of_ascii, length_map, length_range, generateTempPassword]
  refine ⟨bcrypt.generate (generateTempPassword 16 d) s, ?_⟩
  rw [hashPassword, hs, if_neg (by decide), if_neg (by decide)]

variable {role : Role} {email hash name tempPassword : String}

theorem handleInviteUser_eq (bcrypt : Bcrypt) {u : Option AuthUser} {b : Option Json}
    (d : Nat → Fin passwordChars.length) (s : Nat) (t : Users Id) (newID : Id) (now : Nat)
    (hc : (checkInvite u b : Except (Response Id) (String × Role)) = .ok (email, role)) :
    ∃ hash, handleInviteUser bcrypt u b d s t newID now
      = ((createWithPassword t email (localPart email) role hash newID now).1,
          inviteResponse (generateTempPassword 16 d)
            (createWithPassword t email (localPart email) role hash newID now).2) := by
  obtain ⟨hash, hh⟩ := exists_hashPassword bcrypt d s
  refine ⟨hash, ?_⟩
  simp [handleInviteUser, handle, inviteWrite, hc, hh, Write.perform]

/-! ### One invite, by what the column and the table do with its email -/

variable {bcrypt : Bcrypt} {t : Users Id}

omit [DecidableEq Id] in
theorem not_invites_of_length {out : Users Id × Response Id} (hn : ∀ r ∈ t.rows, r.email ≠ email)
    (hl : out.1.rows.length = t.rows.length) : ¬ Invites bcrypt t email role out := by
  intro h
  obtain ⟨r, hr, -⟩ := h.added hn
  rw [hr] at hl
  simp at hl

variable {newID : Id} {now : Nat}

theorem invites_new_iff (hid : ∀ r ∈ t.rows, r.id ≠ newID)
    (hf : varchar 255 email = some email) (hn : (varchar 255 name).isSome)
    (hne : ∀ r ∈ t.rows, r.email ≠ email) :
    Invites bcrypt t email role ((createWithPassword t email name role hash newID now).1,
        inviteResponse tempPassword (createWithPassword t email name role hash newID now).2)
      ↔ ∀ r ∈ t.rows, r.identity ≠ some ("local", email) := by
  obtain ⟨name', hn⟩ := Option.isSome_iff_exists.mp hn
  have hfi : (t.rows.find? fun r => r.email = email) = none := by
    simpa using hne
  rw [← insert_localRow_isSome_iff name' hash role now hid hne]
  cases hi : t.insert (localRow newID email name' role hash now) with
  | none =>
    refine iff_of_false ?_ (by simp)
    refine not_invites_of_length hne ?_
    simp [createWithPassword, hf, hn, hfi, hi]
  | some t' =>
    refine iff_of_true ⟨?_, ?_⟩ rfl
    · grind
    intro _
    refine ⟨localRow newID email name' role hash now, ?_, rfl, rfl⟩
    simp [createWithPassword, hf, hn, hfi, hi, Users.rows_of_ofRows hi]

theorem invites_taken_iff (hfi : varchar 255 email = some email)
    (hn : (varchar 255 name).isSome) (hf : ∃ r ∈ t.rows, r.email = email) :
    Invites bcrypt t email role ((createWithPassword t email name role hash newID now).1,
        inviteResponse tempPassword (createWithPassword t email name role hash newID now).2)
      ↔ ∃ r ∈ t.rows, r.email ≠ email ∧ r.identity = some ("local", email) := by
  obtain ⟨n', hn⟩ := Option.isSome_iff_exists.mp hn
  obtain ⟨account, ha⟩ : ∃ account,
      (t.rows.find? fun r => r.email = email) = some account := by
    rw [← Option.isSome_iff_exists, find?_isSome]
    simpa using hf
  have hup := updateByEmail_isSome_iff hash now hf
  cases hu : t.updateByEmail email (UserRow.withPassword email hash now) with
  | none =>
    -- the index of identities refuses the update, and that is the conflict
    refine iff_of_true ⟨fun _ => ?_, fun hne => ?_⟩ ?_
    · simp [createWithPassword, hfi, hn, ha, hu, inviteResponse,
        speaksOfDuplicate, jsonError, Response.temporaryPassword]
    · grind
    · grind
  | some t' =>
    refine iff_of_false (fun h => ?_) ?_
    · refine inviteResponse_scanUser tempPassword (account.withPassword email hash now) ?_
      simpa [createWithPassword, hfi, hn, ha, hu] using (h.existing hf).1
    · grind

theorem not_invites_of_varchar_ne (hc : ∀ row ∈ t.rows, varchar 255 row.email = some row.email)
    (hf : varchar 255 email ≠ some email) :
    ¬ Invites bcrypt t email role ((createWithPassword t email name role hash newID now).1,
        inviteResponse tempPassword (createWithPassword t email name role hash newID now).2) := by
  have hn : ∀ row ∈ t.rows, row.email ≠ email := by grind
  unfold createWithPassword
  split
  · rename_i email' name' he' _
    cases hfi : t.rows.find? fun row => row.email = email' with
    | none =>
      cases hi : t.insert (localRow newID email' name' role hash now) with
      | none => exact not_invites_of_length hn rfl
      | some t' =>
        intro h
        obtain ⟨row, hr, he, -⟩ := h.added hn
        have hro : localRow newID email' name' role hash now = row := by
          simpa [Users.rows_of_ofRows hi] using hr
        refine hf ?_
        rw [he', ← he, ← hro]
        rfl
    | some row =>
      cases hu : t.updateByEmail email' (UserRow.withPassword email' hash now) with
      | none => exact not_invites_of_length hn rfl
      | some t' =>
        refine not_invites_of_length hn ?_
        rw [Users.rows_of_ofRows hu, length_map]
  · exact not_invites_of_length hn rfl

/-- **Invites.** Whatever the table holds, an invite leaves the account of
a taken email alone and adds one account for a new email just when the
email fits its column and belongs to an account exactly if another account
holds its local identity. The table's emails fit their column, and the id
that the database draws is new. -/
theorem inviteAnswered_iff (bcrypt : Bcrypt) (user : Option AuthUser) (body : Option Json)
    (draws : Nat → Fin passwordChars.length) (salt : Nat) (t : Users Id) (newID : Id) (now : Nat)
    (hcolumn : ∀ row ∈ t.rows, varchar 255 row.email = some row.email)
    (hid : ∀ row ∈ t.rows, row.id ≠ newID) :
    InviteAnswered bcrypt user body t (handleInviteUser bcrypt user body draws salt t newID now)
      ↔ InviteAgrees user body t := by
  unfold InviteAnswered InviteAgrees
  cases hc : (checkInvite user body : Except (Response Id) (String × Role)) with
  | error res =>
    exact iff_of_true (by simp [handleInviteUser, handle, inviteWrite, hc]) trivial
  | ok che =>
    obtain ⟨email, role⟩ := che
    obtain ⟨hash, hh⟩ := handleInviteUser_eq bcrypt draws salt t newID now hc
    rw [hh]
    simp only [IdentityAgrees]
    by_cases hf : varchar 255 email = some email
    · have hn : (varchar 255 (localPart email)).isSome :=
        varchar_localPart (by rw [hf]; rfl)
      rw [and_iff_right hf]
      by_cases hfo : ∃ row ∈ t.rows, row.email = email
      · rw [iff_true_left hfo]
        exact invites_taken_iff hf hn hfo
      have hne : ∀ row ∈ t.rows, row.email ≠ email := fun row hr he => hfo ⟨row, hr, he⟩
      rw [iff_false_left hfo, invites_new_iff hid hf hn hne]
      constructor
      · grind
      · grind
    · exact iff_of_false (not_invites_of_varchar_ne hcolumn hf) fun h => hf h.1

def inviteOwner : Option Json := some (.obj [("email", .str "a@x"), ("role", .str "viewer")])

def oidcOwner : Users Nat :=
  { rows := [{ account 1 "a@x" .owner with provider := some "oidc", providerID := some "s"
                                           passwordHash := none }]
    primaryKey := by decide, uniqueEmail := by decide, uniqueIdentity := by decide }

def otherOwner : AuthUser :=
  { id := "2", email := "b@x", name := "", role := "owner", avatarURL := "" }

/-- The response has a password that logs in to the account, as an owner. -/
theorem invite_takes_account_over :
    let out := handleInviteUser markedBcrypt (some otherOwner) inviteOwner (fun _ => ⟨0, by decide⟩)
      0 oidcOwner 3 1
    ¬ InviteAnswered markedBcrypt (some otherOwner) inviteOwner oidcOwner out ∧ out.2.status = 201 ∧
      ∃ pas ∈ out.2.temporaryPassword, ∃ user ∈ verifyPassword markedBcrypt out.1 "a@x" pas,
        user.id = 1 ∧ user.role = .owner := by
  have hs : (handleInviteUser markedBcrypt (some otherOwner) inviteOwner
      (fun _ => ⟨0, by decide⟩) 0 oidcOwner 3 1).2.status = 201 := by decide
  refine ⟨fun h => ?_, hs, ?_⟩
  · have hc := (Invites.existing h ⟨_, mem_cons_self, rfl⟩).1
    simp [hs] at hc
  · decide

/-- A new email on a table of one account. -/
theorem inviteAnswered_new :
    InviteAnswered markedBcrypt (some otherOwner)
      (some (.obj [("email", .str "c@x"), ("role", .str "viewer")])) oidcOwner
      (handleInviteUser markedBcrypt (some otherOwner)
        (some (.obj [("email", .str "c@x"), ("role", .str "viewer")])) (fun _ => ⟨0, by decide⟩)
        0 oidcOwner 3 1) :=
  (inviteAnswered_iff markedBcrypt _ _ _ 0 oidcOwner 3 1 (by decide) (by decide)).mpr (by
    change IdentityAgrees oidcOwner "c@x"
    unfold IdentityAgrees
    decide)

end UserHandlers

end Daao.Api
