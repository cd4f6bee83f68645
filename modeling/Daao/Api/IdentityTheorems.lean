/-
Daao.Api.IdentityTheorems — in OIDC mode no request ever has a user.

Both statements of `UpsertFromOIDC` return ten columns and `scanUser` has
eleven targets, so the scan of their row fails whatever the table holds.
The middleware logs the failure and hands the request on without a user.
The statements take effect before that, with empty strings: the account of
a subject that comes back loses its email and name, and while one account
has the empty email no other subject gets one.
-/
import Daao.Api.Identity

namespace Daao.Api

open Daao.Lib Daao.Auth

/-! ## 1. The upsert -/

section

variable {Id : Type}

theorem scanUser_upsertReturning (r : UserRow Id) :
    scanUser upsertReturning r = .error (.fieldCount 10 11) := rfl

variable [DecidableEq Id]

/-- **The upsert always fails**, whatever is stored. -/
theorem upsertFromOIDC_fails (t : Users Id) (provider providerID email name avatarURL : String)
    (newID : Id) (now : Nat) :
    ∃ e, (upsertFromOIDC t provider providerID email name avatarURL newID now).2 = .error e := by
  unfold upsertFromOIDC
  cases getByProviderID t provider providerID with
  | ok u =>
    cases t.updateIdentity provider providerID (UserRow.withProfile email name avatarURL now) with
    | none => exact ⟨_, rfl⟩
    | some t' =>
      simp only
      cases t'.findIdentity provider providerID with
      | none => exact ⟨_, rfl⟩
      | some r => exact ⟨_, scanUser_upsertReturning r⟩
  | error e =>
    cases e with
    | userNotFound =>
      cases t.insert (oidcRow newID provider providerID email name avatarURL now) with
      | none => exact ⟨_, rfl⟩
      | some t' =>
        exact ⟨_, scanUser_upsertReturning
          (oidcRow newID provider providerID email name avatarURL now)⟩
    | _ => exact ⟨_, rfl⟩

theorem contextUser_oidc (parseUUID : String → Option Id) (us : Id → String) (t : Users Id)
    (s : String) (i : Id) (n : Nat) :
    contextUser us (resolveUser parseUUID true t s i n).2 = none := by
  obtain ⟨e, he⟩ := upsertFromOIDC_fails t "oidc" s "" "" "" i n
  simp [resolveUser, he, contextUser, Except.map]

end

/-! ## 2. Runs -/

namespace Identity

variable {Id : Type} [DecidableEq Id]

variable {parseUUID : String → Option Id}

theorem user_eq_none_of_served {us : Id → String} :
    ∀ {a : List (Act Id)} {t : Users Id}, ∀ e ∈ served parseUUID us t a, e.user = none
  | [], _, e, he => by cases he
  | .request s i n :: a, t, e, he => by
      simp only [served, List.mem_cons] at he
      rcases he with rfl | hr
      · exact contextUser_oidc parseUUID us t s i n
      · exact user_eq_none_of_served e hr
  | .updateRole id r n :: a, t, e, he => by
      rw [served] at he
      exact user_eq_none_of_served e he

theorem served_eq_nil_iff {us : Id → String} :
    ∀ {c : List (Act Id)} {t : Users Id},
      served parseUUID us t c = [] ↔ ∀ a ∈ c, a.isRequest = false
  | [], _ => by simp [served]
  | .request .. :: _, _ => by simp [served, Act.isRequest]
  | .updateRole id r n :: c, t => by
      rw [served, served_eq_nil_iff]
      simp [Act.isRequest]

theorem keepsAccounts_of_no_request :
    ∀ {c : List (Act Id)} {t : Users Id}, (∀ a ∈ c, a.isRequest = false) →
      Along (step parseUUID) (KeepsAccounts parseUUID) t c
  | [], _, _ => trivial
  | .request .. :: _, _, h => by
      have hf := h _ List.mem_cons_self
      cases hf
  | .updateRole .. :: _, _, h =>
      ⟨trivial, fun _ _ => keepsAccounts_of_no_request fun a ha => h a (List.mem_cons_of_mem _ ha)⟩

/-- **Identities.** From every table, the requests of a run reach their
handlers with the identities of their subjects just when the run has no
request. -/
theorem identified_iff (parseUUID : String → Option Id) (uuidString : Id → String) (t : Users Id)
    (acts : List (Act Id)) :
    Identified parseUUID uuidString t acts ↔ ∀ a ∈ acts, a.isRequest = false := by
  have hs : served parseUUID uuidString t acts = [] ↔ ∀ a ∈ acts, a.isRequest = false :=
    served_eq_nil_iff
  constructor
  · intro h
    rw [← hs, List.eq_nil_iff_forall_not_mem]
    intro e he
    obtain ⟨user, -, hu, -⟩ := h.belongs e he
    rw [user_eq_none_of_served e he] at hu
    cases hu
  intro hno
  have hn := hs.mpr hno
  exact ⟨by simp [hn], by simp [hn], keepsAccounts_of_no_request hno⟩

theorem first_login_unidentified :
    ¬ Identified (fun _ => none) (fun _ => "") (.empty : Users Nat) [.request "alice" 0 1] := by
  intro h
  obtain ⟨user, -, hu, -⟩ := h.belongs _ List.mem_cons_self
  cases hu

end Identity

end Daao.Api
