import LitellmOperator.Sync.Credential
import LitellmOperator.Sync.Kinds
import LitellmOperator.Sync.Model
import LitellmOperator.Sync.User

/-! # The sync hash is sound

A resource that is reported as in sync has been pushed as its spec says, for the six kinds that
skip a push when the sync hash is that of the spec. It takes that no write is lost between a push
and the write of its hash: otherwise a resource whose spec is reverted is skipped while LiteLLM
still has the other spec (`sync_hash_unsound`).
-/

set_option autoImplicit false

namespace LitellmOperator

open Effect Go Kube Ctl

/-- The kinds with a sync hash of their own. -/
inductive HashedKind where
  | model
  | team
  | user
  | organization
  | customer
  | credential
  deriving DecidableEq

def HashedKind.hashSync (lib : Ext) : HashedKind → HashSync lib
  | .model => Model.hashSync lib
  | .team => Team.hashSync lib
  | .user => User.hashSync lib
  | .organization => Organization.hashSync lib
  | .customer => Customer.hashSync lib
  | .credential => Credential.hashSync lib

/-- **The sync hash is sound.** In every run of edits and reconciles, whatever fails except a write
between a push and the write of its hash: when a reconcile reports success, the last body pushed to
the object is the one for the spec as it is, and for what its references resolve to. -/
theorem sync_hash_sound (k : HashedKind) {lib : Ext} {req : NamespacedName}
    {U : (k.hashSync lib).Occurs} {cr r : (k.hashSync lib).R.CR}
    {σ : (k.hashSync lib).R.RScene} {E : (k.hashSync lib).R.RPass}
    (hfree : (k.hashSync lib).CollisionFree U) (hids : (k.hashSync lib).Settled U)
    (hlive : cr.metadata.deleting = false) (hblank : syncHash cr = "")
    (hrun : Reconciler.Passes lib req ((k.hashSync lib).Meets U) ((k.hashSync lib).R.scene cr) σ)
    (hE : (k.hashSync lib).Meets U σ (.pass E))
    (hrep : (Reconciler.done lib req σ E).reported = some r)
    (hsync : (k.hashSync lib).synced r.status = true) :
    (k.hashSync lib).InSync E (Reconciler.done lib req σ E) r :=
  HashSync.inSync_of_run hfree hids hlive hblank hrun hE hrep hsync

/-! ## Two specs of an organization -/

namespace Sample

def renamed : LiteLLMOrganizationSpec :=
  { instanceRef := { name := "a" }, organizationAlias := "renamed" }

/-- A hash that tells the two specs apart. -/
def aliasHash : SpecValue → String
  | .organization spec =>
    if spec.organizationAlias = "org" then "0123456789abcdef" else "fedcba9876543210"
  | _ => "0123456789abcdef"

def hashing : Ext where
  computeSpecHash := aliasHash
  computeSpecHash_length v := by
    cases v with
    | organization spec =>
      show (if spec.organizationAlias = "org" then _ else _ : String).length = 16
      split <;> decide
    | _ => exact (by decide : "0123456789abcdef".length = 16)
  labelSelectorAsSelector := lib.labelSelectorAsSelector
  unmarshal := lib.unmarshal
  parseFloat := lib.parseFloat
  argon2IDKey := lib.argon2IDKey
  argon2IDKey_length := lib.argon2IDKey_length

def calm : Reconciler.organization.RPass := pass (fun _ => none) (organizationServed "org-1")

/-- A reconcile whose write right after an update of the organization fails. -/
def hashLost : Reconciler.organization.RPass := pass (fun σ => match σ.trace with
    | ⟨.api _ (.update _), .ok _⟩ :: _ => some (errorf "conflict")
    | _ => none) (organizationServed "org-1")

/-- The two specs, which refer to nothing. -/
def Named : (Organization.hashSync hashing).Occurs := fun s _ =>
  s = (organization "a").spec ∨ s = renamed

theorem collisionFree_named : (Organization.hashSync hashing).CollisionFree Named := by
  rintro s _ s' _ (rfl | rfl) (rfl | rfl) h
  · rfl
  · exact absurd (show "0123456789abcdef" = "fedcba9876543210" from h) (by decide)
  · exact absurd (show "fedcba9876543210" = "0123456789abcdef" from h) (by decide)
  · rfl

theorem settled_named : (Organization.hashSync hashing).Settled Named := fun _ _ _ _ _ _ => rfl

/-- A pass is ordinary where the organization has one of the two specs. -/
theorem ordinary_named {σ : Reconciler.organization.RScene} {spec : LiteLLMOrganizationSpec}
    {E : Reconciler.organization.RPass} (hE : E.serve = calm.serve)
    (hnow : ∃ v, σ.Now v ∧ v.spec = spec) (hspec : Named spec ()) :
    (Organization.hashSync hashing).Ordinary Named σ (.pass E) := by
  intro cr hcr
  obtain ⟨v, hv, rfl⟩ := hnow
  obtain rfl : v = cr := Option.some.inj (hv.symm.trans hcr)
  refine ⟨?_, fun _ _ => hspec⟩
  intro τ conn body resp hresp
  rw [hE] at hresp
  cases hresp
  show "org-1" ≠ ""
  decide

theorem meets_calm {σ : Reconciler.organization.RScene} {spec : LiteLLMOrganizationSpec}
    (hnow : ∃ v, σ.Now v ∧ v.spec = spec) (hspec : Named spec ()) :
    (Organization.hashSync hashing).Meets Named σ (.pass calm) :=
  ⟨fun _ _ => rfl, ordinary_named rfl hnow hspec⟩

def created : Reconciler.organization.RScene :=
  Reconciler.done hashing ⟨"apps", "org"⟩ (Reconciler.organization.scene (organization "a")) calm

end Sample

/-- An organization that was created and then renamed is in sync after the next reconcile. -/
theorem sync_hash_sound_renamed :
    ∃ σ r, Reconciler.take Sample.hashing ⟨"apps", "org"⟩ Sample.created
        (.env (.edit Sample.renamed)) = some σ ∧
      (Reconciler.done Sample.hashing ⟨"apps", "org"⟩ σ Sample.calm).reported = some r ∧
      (Organization.hashSync Sample.hashing).InSync Sample.calm
        (Reconciler.done Sample.hashing ⟨"apps", "org"⟩ σ Sample.calm) r := by
  refine ⟨_, _, rfl, rfl, ?_⟩
  refine sync_hash_sound .organization Sample.collisionFree_named Sample.settled_named rfl rfl
    (.turn (t := .env (.edit Sample.renamed))
      (.turn (t := .pass Sample.calm) (.refl _) (Sample.meets_calm ⟨_, rfl, rfl⟩ (.inl rfl)) rfl)
      ⟨_, rfl⟩ rfl)
    (Sample.meets_calm ⟨_, rfl, rfl⟩ (.inr rfl)) rfl rfl

/-- The write of the hash fails after an update, and the spec is reverted: the next reconcile
reports success and pushes nothing. -/
theorem sync_hash_unsound :
    ¬ ∀ (k : HashedKind) (lib : Ext) (req : NamespacedName) (U : (k.hashSync lib).Occurs)
      (cr r : (k.hashSync lib).R.CR) (σ : (k.hashSync lib).R.RScene) (E : (k.hashSync lib).R.RPass),
      (k.hashSync lib).CollisionFree U → (k.hashSync lib).Settled U →
      cr.metadata.deleting = false → syncHash cr = "" →
      Reconciler.Passes lib req ((k.hashSync lib).Ordinary U) ((k.hashSync lib).R.scene cr) σ →
      (k.hashSync lib).Ordinary U σ (.pass E) →
      (Reconciler.done lib req σ E).reported = some r →
      (k.hashSync lib).synced r.status = true →
      (k.hashSync lib).InSync E (Reconciler.done lib req σ E) r := by
  intro hall
  obtain ⟨_, x, req, -, hx, hlast, hcarries⟩ := hall .organization Sample.hashing ⟨"apps", "org"⟩
    Sample.Named (Sample.organization "a") _ _ Sample.calm Sample.collisionFree_named
    Sample.settled_named rfl rfl
    (.turn (t := .env (.edit (Sample.organization "a").spec)) (.turn (t := .pass Sample.hashLost)
        (.turn (t := .env (.edit Sample.renamed)) (.turn (t := .pass Sample.calm) (.refl _)
            (Sample.ordinary_named rfl ⟨_, rfl, rfl⟩ (.inl rfl)) rfl)
          ⟨_, rfl⟩ rfl)
        (Sample.ordinary_named rfl ⟨_, rfl, rfl⟩ (.inr rfl)) rfl)
      ⟨_, rfl⟩ rfl)
    (Sample.ordinary_named rfl ⟨_, rfl, rfl⟩ (.inl rfl)) rfl rfl
  obtain rfl := Option.some.inj hx
  obtain rfl := Option.some.inj hlast
  exact absurd (congrArg OrganizationUpdateRequest.organizationAlias hcarries) (by decide)

end LitellmOperator
