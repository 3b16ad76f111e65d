import LitellmOperator.Instance.Unmanaged

/-! # What the name of a migration Job identifies

A Job that exists is not built again, so its name should say which pod template it has. The name is a
digest of the choice of the image, the image and the placement (`SameSelection`). The template has
more in it that a spec can change (`SameSurroundings`): the Secret with the address of the database,
the Secrets for its TLS, how images are pulled, and whether the pod may run as root. The name
identifies the template only among specs that agree on these.
-/

set_option autoImplicit false

namespace LitellmOperator

open Go Kube

/-! ## Placement -/

def PodSchedulingSpec.canonical (s : PodSchedulingSpec) : PodSchedulingSpec :=
  { s with nodeSelector := StrMap.canonical s.nodeSelector }

/-- The placement of the pods, with maps in the order of their keys. -/
def placement (inst : LiteLLMInstance) : PodSchedulingSpec :=
  (inst.spec.podScheduling.getD {}).canonical

theorem isEmpty_canonical {V : Type} (m : StrMap V) : (StrMap.canonical m).isEmpty = m.isEmpty := by
  have hperm : (StrMap.canonical m).Perm m := List.perm_insertionSort _ m
  exact hperm.isEmpty_eq

variable {inst inst' : LiteLLMInstance}

section

variable (lib : InstanceExt)

/-- `json.Marshal` writes maps in the order of their keys. -/
def OrdersKeys : Prop := ∀ s s' : PodSchedulingSpec, s.canonical = s'.canonical →
    lib.marshalScheduling s = lib.marshalScheduling s'

/-- `json.Marshal` writes these settings differently if they differ, and never as nothing. -/
structure MarshalsFaithfully (s s' : PodSchedulingSpec) : Prop where
  injective : lib.marshalScheduling s = lib.marshalScheduling s' → s.canonical = s'.canonical
  nonempty : lib.marshalScheduling s ≠ "" ∧ lib.marshalScheduling s' ≠ ""

variable {lib}

theorem podSchedulingSeed_getD (scheduling : Option PodSchedulingSpec) :
    podSchedulingSeed lib scheduling = podSchedulingSeed lib (some (scheduling.getD {})) := by
  cases scheduling with
  | none | some s => rfl

theorem podSchedulingSeed_congr (horder : OrdersKeys lib) (h : placement inst = placement inst') :
    podSchedulingSeed lib inst.spec.podScheduling =
      podSchedulingSeed lib inst'.spec.podScheduling := by
  rw [podSchedulingSeed_getD inst.spec.podScheduling,
    podSchedulingSeed_getD inst'.spec.podScheduling]
  generalize hs : inst.spec.podScheduling.getD {} = s
  generalize hs' : inst'.spec.podScheduling.getD {} = s'
  have hcanonical : s.canonical = s'.canonical := by
    rw [← hs, ← hs']
    exact h
  have hselector : s.nodeSelector.isEmpty = s'.nodeSelector.isEmpty := by
    rw [← isEmpty_canonical s.nodeSelector, ← isEmpty_canonical s'.nodeSelector]
    exact congrArg (fun s => s.nodeSelector.isEmpty) hcanonical
  have htolerations : s.canonical.tolerations = s'.canonical.tolerations := by rw [hcanonical]
  have haffinity : s.canonical.affinity = s'.canonical.affinity := by rw [hcanonical]
  unfold podSchedulingSeed
  dsimp only
  rw [hselector, show s.tolerations = s'.tolerations from htolerations,
    show s.affinity = s'.affinity from haffinity, horder s s' hcanonical]

theorem placement_of_podSchedulingSeed (hjson : MarshalsFaithfully lib
      (inst.spec.podScheduling.getD {}) (inst'.spec.podScheduling.getD {}))
    (h : podSchedulingSeed lib inst.spec.podScheduling =
      podSchedulingSeed lib inst'.spec.podScheduling) : placement inst = placement inst' := by
  rw [podSchedulingSeed_getD inst.spec.podScheduling,
    podSchedulingSeed_getD inst'.spec.podScheduling] at h
  unfold placement
  generalize inst.spec.podScheduling.getD {} = s at h hjson ⊢
  generalize inst'.spec.podScheduling.getD {} = s' at h hjson ⊢
  -- settings with nothing in them are all the same
  have hempty : ∀ s : PodSchedulingSpec, (s.nodeSelector.isEmpty && s.tolerations.isEmpty &&
      s.affinity.isNone) = true → s = {} := by
    rintro ⟨nodeSelector, tolerations, affinity⟩ hs
    simp only [Bool.and_eq_true, List.isEmpty_iff, Option.isNone_iff_eq_none] at hs
    obtain ⟨⟨rfl, rfl⟩, rfl⟩ := hs
    rfl
  unfold podSchedulingSeed at h
  dsimp only at h
  split at h
  · rename_i hs
    split at h
    · rename_i hs'
      rw [hempty s hs, hempty s' hs']
    · exact absurd h.symm hjson.nonempty.2
  · split at h
    · exact absurd h hjson.nonempty.1
    · exact hjson.injective h

end

/-! ## What the template is made of -/

/-- The Secret that holds the address of the database. -/
def databaseSecret (inst : LiteLLMInstance) : Option SecretKeyRef :=
  match inst.spec.database.external with
  | some external => some external.connectionSecretRef
  | none =>
    match inst.spec.database.cloudNativePG with
    | some cnpg => some ⟨cnpg.clusterName ++ "-app", "uri"⟩
    | none =>
      if inst.spec.database.managed.any (·.enabled) then
        some ⟨inst.metadata.name ++ "-db", "database-url"⟩
      else none

theorem databaseEnvVars_eq (inst : LiteLLMInstance) :
    databaseEnvVars inst = (databaseSecret inst).toList.map (envFromSecret "DATABASE_URL") := by
  unfold databaseEnvVars databaseSecret
  cases inst.spec.database.external with
  | some external => rfl
  | none =>
    cases inst.spec.database.cloudNativePG with
    | some cnpg => rfl
    | none =>
      cases inst.spec.database.managed.any (·.enabled) with
      | true | false => rfl

theorem databaseSecret_eq_iff :
    databaseEnvVars inst = databaseEnvVars inst' ↔ databaseSecret inst = databaseSecret inst' := by
  rw [databaseEnvVars_eq, databaseEnvVars_eq]
  refine ⟨fun h => ?_, fun h => by rw [h]⟩
  cases hs : databaseSecret inst with
  | none =>
    cases hs' : databaseSecret inst' with
    | none => rfl
    | some ref =>
      rw [hs, hs'] at h
      cases h
  | some ref =>
    rcases hs' : databaseSecret inst' with _ | ref'
    · rw [hs, hs'] at h
      cases h
    obtain ⟨name, key⟩ := ref
    obtain ⟨name', key'⟩ := ref'
    rw [hs, hs'] at h
    simp only [Option.toList_some, List.map_cons, List.map_nil, envFromSecret, List.cons.injEq,
      EnvVar.mk.injEq, Option.some.injEq, EnvVarSource.mk.injEq, KeySelector.mk.injEq,
      and_true, true_and] at h
    rw [h.1, h.2]

/-- Volumes and mounts together say which Secrets are mounted where. -/
theorem secrets_of_volumes {secrets secrets' : List (String × String × String)}
    (hmounts : secretMounts secrets = secretMounts secrets')
    (hvolumes : secretVolumes secrets = secretVolumes secrets') : secrets = secrets' := by
  induction secrets generalizing secrets' with
  | nil =>
    cases secrets' with
    | nil => rfl
    | cons s' rest' => cases hmounts
  | cons s rest ih =>
    cases secrets' with
    | nil => cases hmounts
    | cons s' rest' =>
      obtain ⟨hmount, hmounts'⟩ := List.cons.inj hmounts
      obtain ⟨hvolume, hvolumes'⟩ := List.cons.inj hvolumes
      have hdir : s.2.1 = s'.2.1 := congrArg VolumeMount.mountPath hmount
      have hname : s.1 = s'.1 := congrArg VolumeMount.name hmount
      have hsecret : s.2.2 = s'.2.2 := by
        have hsource := congrArg Volume.secret hvolume
        exact congrArg DataSource.name (Option.some.inj hsource)
      have hs : s = s' := Prod.ext hname (Prod.ext hdir hsecret)
      rw [hs, ih hmounts' hvolumes']

section

variable (inst inst' : LiteLLMInstance)

/-- The specs choose the same image and the same placement. -/
structure SameSelection : Prop where
  choice : usesDatabaseImage inst = usesDatabaseImage inst'
  image : migrationImage inst = migrationImage inst'
  placement : placement inst = placement inst'

/-- The specs agree on what else the pods are given. -/
structure SameSurroundings : Prop where
  database : databaseSecret inst = databaseSecret inst'
  databaseTLS : dbTLSSecrets inst = dbTLSSecrets inst'
  pullPolicy : migrationPullPolicy inst = migrationPullPolicy inst'
  pullSecrets : inst.spec.image.pullSecrets.map (·.name) = inst'.spec.image.pullSecrets.map (·.name)
  /-- The migrations image never runs as root. -/
  nonRoot : usesDatabaseImage inst = false → runsAsNonRoot inst = runsAsNonRoot inst'

/-- The template of the pods, with maps in the order of their keys. -/
def migrationTemplate (lib : InstanceExt) (labels : StrMap String) : PodTemplateSpec :=
  (buildMigrationJob lib inst labels).spec.template.canonical

variable {inst inst'}

theorem migrationCommand_eq_iff : migrationCommand inst = migrationCommand inst' ↔
      usesDatabaseImage inst = usesDatabaseImage inst' := by
  unfold migrationCommand
  cases usesDatabaseImage inst with
  | true =>
    cases usesDatabaseImage inst' with
    | true => exact ⟨fun _ => rfl, fun _ => rfl⟩
    | false => exact ⟨fun h => (by cases h), fun h => (by cases h)⟩
  | false =>
    cases usesDatabaseImage inst' with
    | true => exact ⟨fun h => (by cases h), fun h => (by cases h)⟩
    | false => exact ⟨fun _ => rfl, fun _ => rfl⟩

theorem podSecurityContext_injective {b b' : Bool}
    (h : podSecurityContext b = podSecurityContext b') : b = b' := by
  cases b <;> cases b' <;> first | rfl | cases h

theorem placement_eq (inst : LiteLLMInstance) : placement inst =
      { nodeSelector := StrMap.canonical ((inst.spec.podScheduling.map (·.nodeSelector)).getD [])
        tolerations := (inst.spec.podScheduling.map (·.tolerations)).getD []
        affinity := inst.spec.podScheduling.bind (·.affinity) } := by
  unfold placement
  cases inst.spec.podScheduling with
  | none | some s => rfl

/-- **The template is determined by these settings, and determines them.** -/
theorem migrationTemplate_eq_iff (lib : InstanceExt) (labels : StrMap String) :
    migrationTemplate inst lib labels = migrationTemplate inst' lib labels ↔
      SameSelection inst inst' ∧ SameSurroundings inst inst' := by
  constructor
  · intro h
    have hspec : (buildMigrationJob lib inst labels).spec.template.spec.canonical =
        (buildMigrationJob lib inst' labels).spec.template.spec.canonical :=
      congrArg PodTemplateSpec.spec h
    have hcontainer : migrationContainer inst = migrationContainer inst' := by
      have hcontainers := congrArg PodSpec.containers hspec
      exact List.head_eq_of_cons_eq hcontainers
    have hchoice := migrationCommand_eq_iff.mp (congrArg Container.command hcontainer)
    have hplacement : placement inst = placement inst' := by
      have hselector := congrArg PodSpec.nodeSelector hspec
      have htolerations := congrArg PodSpec.tolerations hspec
      have haffinity := congrArg PodSpec.affinity hspec
      rw [placement_eq, placement_eq]
      exact congr (congr (congrArg PodSchedulingSpec.mk hselector) htolerations) haffinity
    refine ⟨⟨hchoice, congrArg Container.image hcontainer, hplacement⟩, ?_, ?_, ?_, ?_, ?_⟩
    · exact databaseSecret_eq_iff.mp (congrArg Container.env hcontainer)
    · exact secrets_of_volumes (congrArg Container.volumeMounts hcontainer)
        (congrArg PodSpec.volumes hspec)
    · exact congrArg Container.imagePullPolicy hcontainer
    · exact congrArg PodSpec.imagePullSecrets hspec
    · intro hgateway
      have hcontext := Option.some.inj (congrArg PodSpec.securityContext hspec)
      rw [← hchoice, hgateway] at hcontext
      exact podSecurityContext_injective hcontext
  · rintro ⟨hselection, hsurroundings⟩
    have hplacement := hselection.placement
    rw [placement_eq, placement_eq] at hplacement
    injection hplacement with hselector htolerations haffinity
    have hcontext : migrationPodSecurityContext (usesDatabaseImage inst)
        (usesDatabaseImage inst || runsAsNonRoot inst) =
        migrationPodSecurityContext (usesDatabaseImage inst')
          (usesDatabaseImage inst' || runsAsNonRoot inst') := by
      rw [← hselection.choice]
      cases hchoice : usesDatabaseImage inst with
      | true => rfl
      | false => rw [hsurroundings.nonRoot hchoice]
    have hcontainer : migrationContainer inst = migrationContainer inst' := by
      unfold migrationContainer dbTLSVolumeMounts
      rw [hselection.image, migrationCommand_eq_iff.mpr hselection.choice,
        databaseSecret_eq_iff.mpr hsurroundings.database, hsurroundings.databaseTLS,
        hsurroundings.pullPolicy]
    unfold migrationTemplate buildMigrationJob PodTemplateSpec.canonical PodSpec.canonical
      dbTLSVolumes
    dsimp only
    rw [hcontext, hcontainer, hselector, htolerations, haffinity, hsurroundings.databaseTLS,
      hsurroundings.pullSecrets]

/-! ## The name -/

variable {lib : InstanceExt}

theorem jobHashSeed_congr (horder : OrdersKeys lib) (h : SameSelection inst inst') :
    jobHashSeed lib inst = jobHashSeed lib inst' := by
  have himage := h.image
  unfold jobHashSeed
  rw [podSchedulingSeed_congr horder h.placement]
  unfold migrationImage at himage
  rw [← h.choice] at himage ⊢
  cases hchoice : usesDatabaseImage inst with
  | true =>
    rw [hchoice, if_pos rfl, if_pos rfl] at himage
    rw [if_pos rfl, if_pos rfl, himage]
  | false =>
    rw [hchoice, if_neg Bool.false_ne_true, if_neg Bool.false_ne_true] at himage
    rw [if_neg Bool.false_ne_true, if_neg Bool.false_ne_true, himage]

/-- What is read off the digest of a seed: its first four bytes. -/
def shortDigest (lib : InstanceExt) (seed : String) : String :=
  String.ofList ((lib.sha256Hex (bytesOf seed)).toList.take 8)

theorem migrationJobName_eq_iff (hname : inst.metadata.name = inst'.metadata.name)
    (hdigest : shortDigest lib (jobHashSeed lib inst) = shortDigest lib (jobHashSeed lib inst') →
      jobHashSeed lib inst = jobHashSeed lib inst') :
    migrationJobName lib inst = migrationJobName lib inst' ↔
      jobHashSeed lib inst = jobHashSeed lib inst' := by
  unfold migrationJobName
  rw [hname]
  constructor
  · intro h
    exact hdigest ((String.append_right_inj _).mp h)
  · intro h
    rw [h]

/-! ## Which specs the name tells apart -/

/-- The name of the Job tells these specs apart, as far as their templates differ. -/
structure NameTellsApart (lib : InstanceExt) (inst inst' : LiteLLMInstance) : Prop where
  /-- The seed can be read in one way only. -/
  readable : jobHashSeed lib inst = jobHashSeed lib inst' → SameSelection inst inst'
  /-- There is nothing else to tell apart. -/
  enough : SameSelection inst inst' → SameSurroundings inst inst'

/-- Jobs of one name have one template. -/
def NameFixesTemplate (lib : InstanceExt) (labels : StrMap String) (inst inst' : LiteLLMInstance) :
    Prop :=
  (buildMigrationJob lib inst labels).metadata.name =
      (buildMigrationJob lib inst' labels).metadata.name →
    migrationTemplate inst lib labels = migrationTemplate inst' lib labels

/-! ## Images with an ordinary name -/

/-- What stands in the seed after the image. -/
def seedTail (lib : InstanceExt) (inst : LiteLLMInstance) : String :=
  (if usesDatabaseImage inst then "" else "|" ++ migrateDeployCommand) ++
    (if podSchedulingSeed lib inst.spec.podScheduling = "" then ""
    else "|scheduling=" ++ podSchedulingSeed lib inst.spec.podScheduling)

theorem jobHashSeed_eq (lib : InstanceExt) (inst : LiteLLMInstance) : jobHashSeed lib inst =
      (if usesDatabaseImage inst then "db-image|" else "gateway|") ++
        (migrationImage inst ++ seedTail lib inst) := by
  unfold jobHashSeed migrationImage seedTail
  dsimp only
  cases usesDatabaseImage inst with
  | true =>
    by_cases hseed : podSchedulingSeed lib inst.spec.podScheduling = ""
    · simp [hseed]
    · simp [hseed, String.append_assoc]
  | false =>
    by_cases hseed : podSchedulingSeed lib inst.spec.podScheduling = ""
    · simp [hseed, String.append_assoc]
    · simp [hseed, String.append_assoc]

theorem seedTail_separated (lib : InstanceExt) (inst : LiteLLMInstance) :
    (seedTail lib inst).toList = [] ∨ (seedTail lib inst).toList.head? = some '|' := by
  unfold seedTail
  cases usesDatabaseImage inst with
  | true =>
    by_cases hseed : podSchedulingSeed lib inst.spec.podScheduling = ""
    · exact .inl (by simp [hseed])
    · exact .inr (by simp [hseed, String.toList_append])
  | false => exact .inr (by simp [String.toList_append])

theorem podSchedulingSeed_of_seedTail (hchoice : usesDatabaseImage inst = usesDatabaseImage inst')
    (h : seedTail lib inst = seedTail lib inst') :
    podSchedulingSeed lib inst.spec.podScheduling =
      podSchedulingSeed lib inst'.spec.podScheduling := by
  unfold seedTail at h
  rw [hchoice, String.append_right_inj] at h
  by_cases hs : podSchedulingSeed lib inst.spec.podScheduling = ""
  · by_cases hs' : podSchedulingSeed lib inst'.spec.podScheduling = ""
    · rw [hs, hs']
    · rw [if_pos hs, if_neg hs'] at h
      have hlist := congrArg String.toList h
      rw [String.toList_append] at hlist
      cases hlist
  · by_cases hs' : podSchedulingSeed lib inst'.spec.podScheduling = ""
    · rw [if_neg hs, if_pos hs'] at h
      have hlist := congrArg String.toList h
      rw [String.toList_append] at hlist
      cases hlist
    · rw [if_neg hs, if_neg hs'] at h
      exact (String.append_right_inj _).mp h

/-- The seed can be read if no image has a bar in its name, which a valid one never has. -/
theorem readable_of_plain (hjson : MarshalsFaithfully lib
      (inst.spec.podScheduling.getD {}) (inst'.spec.podScheduling.getD {}))
    (himage : '|' ∉ (migrationImage inst).toList) (himage' : '|' ∉ (migrationImage inst').toList)
    (h : jobHashSeed lib inst = jobHashSeed lib inst') : SameSelection inst inst' := by
  rw [jobHashSeed_eq, jobHashSeed_eq] at h
  -- the first character tells the two ways to choose an image apart
  have hchoice : usesDatabaseImage inst = usesDatabaseImage inst' := by
    have hhead := congrArg (fun s : String => s.toList.head?) h
    simp only [String.toList_append] at hhead
    cases hc : usesDatabaseImage inst with
    | true =>
      cases hc' : usesDatabaseImage inst' with
      | true => rfl
      | false =>
        rw [hc, hc'] at hhead
        cases hhead
    | false =>
      cases hc' : usesDatabaseImage inst' with
      | true =>
        rw [hc, hc'] at hhead
        cases hhead
      | false => rfl
  rw [hchoice, String.append_right_inj] at h
  have hlist := congrArg String.toList h
  rw [String.toList_append, String.toList_append] at hlist
  obtain ⟨hname, htail⟩ := append_separated_inj himage himage' (seedTail_separated lib inst)
    (seedTail_separated lib inst') hlist
  have hseed := podSchedulingSeed_of_seedTail hchoice (String.toList_inj.mp htail)
  exact ⟨hchoice, String.toList_inj.mp hname, placement_of_podSchedulingSeed hjson hseed⟩

/-- **When the name of a migration Job identifies its template.** Of two specs of one instance whose
images have ordinary names: if and only if those that choose the same image and placement also agree
on the rest of the template. Of any two: if and only if, besides, the seed can be read in one way
only. -/
theorem name_identifies_template (labels : StrMap String)
    (hname : inst.metadata.name = inst'.metadata.name)
    (hdigest : shortDigest lib (jobHashSeed lib inst) = shortDigest lib (jobHashSeed lib inst') →
      jobHashSeed lib inst = jobHashSeed lib inst')
    (horder : OrdersKeys lib) :
    (MarshalsFaithfully lib (inst.spec.podScheduling.getD {}) (inst'.spec.podScheduling.getD {}) →
      '|' ∉ (migrationImage inst).toList → '|' ∉ (migrationImage inst').toList →
      (NameFixesTemplate lib labels inst inst' ↔
        (SameSelection inst inst' → SameSurroundings inst inst'))) ∧
    (NameFixesTemplate lib labels inst inst' ↔ NameTellsApart lib inst inst') := by
  have hsame : (buildMigrationJob lib inst labels).metadata.name =
      (buildMigrationJob lib inst' labels).metadata.name ↔
        jobHashSeed lib inst = jobHashSeed lib inst' := migrationJobName_eq_iff hname hdigest
  have hiff : NameFixesTemplate lib labels inst inst' ↔ NameTellsApart lib inst inst' := by
    unfold NameFixesTemplate
    rw [hsame, migrationTemplate_eq_iff]
    constructor
    · intro h
      exact ⟨fun hseed => (h hseed).1, fun hselection => (h (jobHashSeed_congr horder hselection)).2⟩
    · intro h hseed
      have hselection := h.readable hseed
      exact ⟨hselection, h.enough hselection⟩
  refine ⟨fun hjson himage himage' => hiff.trans ⟨NameTellsApart.enough, fun h => ?_⟩, hiff⟩
  exact ⟨readable_of_plain hjson himage himage', h⟩

end

/-! ## Two databases, one name -/

namespace Sample

/-- An instance with a migration for the database whose address this Secret holds. -/
def migrating (secretName : String) : LiteLLMInstance where
  metadata := { name := "proxy", ns := "apps" }
  spec :=
    { database :=
        { external := some { connectionSecretRef := ⟨secretName, "url"⟩ }
          migration := some { enabled := true } } }
  status := {}

end Sample

/-- Another database is to be migrated, in a Job of the same name. -/
theorem database_not_in_name : ∃ inst inst' : LiteLLMInstance, inst.metadata = inst'.metadata ∧
      migrationEnabled inst = true ∧ migrationEnabled inst' = true ∧
      (buildMigrationJob Sample.instanceLib inst []).metadata.name =
        (buildMigrationJob Sample.instanceLib inst' []).metadata.name ∧
      jobHashSeed Sample.instanceLib inst = jobHashSeed Sample.instanceLib inst' ∧
      databaseEnvVars inst ≠ databaseEnvVars inst' ∧
      migrationTemplate inst Sample.instanceLib [] ≠ migrationTemplate inst' Sample.instanceLib [] :=
  ⟨Sample.migrating "old-db", Sample.migrating "new-db", rfl, rfl, rfl, rfl, rfl, by decide,
    fun h => absurd ((migrationTemplate_eq_iff _ _).mp h).2.database (by decide)⟩

namespace Sample

/-- Settings are written with their keys in order, and the digest tells seeds apart that end
differently. -/
def placingLib : InstanceExt :=
  { instanceLib with
    sha256Hex := fun bs => String.ofList (bs.reverse.map (fun b => Char.ofNat b.toNat))
    marshalScheduling := fun s => s.canonical.nodeSelector.foldr (fun p t => p.1 ++ "=" ++ p.2 ++ t)
      (String.join s.tolerations ++ s.affinity.getD "" ++ ".") }

/-- The pods are to run in this zone. -/
def placed (zone : String) (replicas : Int) : LiteLLMInstance :=
  { migrating "db" with
    spec.podScheduling := some { nodeSelector := [("zone", zone)] }
    spec.replicas := replicas }

end Sample

/-- A change of the replicas leaves both the name and the template as they are; a change of the zone
gives the Job another name. -/
theorem name_identifies_template_scaled :
    migrationJobName Sample.placingLib (Sample.placed "a" 1) ≠
        migrationJobName Sample.placingLib (Sample.placed "b" 1) ∧
      (buildMigrationJob Sample.placingLib (Sample.placed "a" 1) []).metadata.name =
        (buildMigrationJob Sample.placingLib (Sample.placed "a" 3) []).metadata.name ∧
      migrationTemplate (Sample.placed "a" 1) Sample.placingLib [] =
        migrationTemplate (Sample.placed "a" 3) Sample.placingLib [] := by
  have horder : OrdersKeys Sample.placingLib := fun s s' h => by
    show (s.canonical.nodeSelector.foldr _ (String.join s.canonical.tolerations ++
      s.canonical.affinity.getD "" ++ ".")) = _
    rw [h]
    rfl
  have hfixes : NameFixesTemplate Sample.placingLib [] (Sample.placed "a" 1) (Sample.placed "a" 3) :=
    ((name_identifies_template [] rfl (fun _ => rfl) horder).1 ⟨fun _ => rfl, by decide, by decide⟩
      (by decide) (by decide)).mpr (fun _ => ⟨rfl, rfl, rfl, rfl, fun _ => rfl⟩)
  exact ⟨by decide +kernel, rfl, hfixes rfl⟩

end LitellmOperator
