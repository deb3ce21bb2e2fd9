import NestMonorepo.Tooling.FirstRun
import Mathlib.Data.List.Nodup

/-! # Running the scaffold once per name

The first run writes another list of services in the place of the anchor that the next run looks
for. So a second run always aborts, and runs compose only where there is at most one.
-/

namespace NestMonorepo

open Collections TemplateFile

/-! ## What a service is wired into -/

/-- A line of its own between an opening line and the closing one. -/
def InBlock (opening closing entry : String) (text : List Char) : Prop :=
  ∃ front inside back, text = fileText (front ++ opening :: (inside ++ entry :: back)) ∧
    ∀ line ∈ inside, '\n' ∉ line.toList ∧ line ≠ closing

/-- A quoted item on the line that starts so. -/
def OnLine (start item : String) (text : List Char) : Prop :=
  ∃ front before after back,
    text = fileText (front ++ (start ++ before ++ "'" ++ item ++ "'" ++ after) :: back) ∧
      '\n' ∉ before.toList

/-- A service has its entries. -/
structure Wired (files : Files) (name : ServiceName) : Prop where
  queues : InBlock "export const QUEUES = \x7b" "\x7d as const;" (queuesEntry name)
    (files .queueConstants)
  serviceTokens : InBlock "export const SERVICE_TOKENS = \x7b" "\x7d as const;" (tokensEntry name)
    (files .queueConstants)
  allServices : OnLine "const ALL_SERVICES: ServiceKey[] = [" name.constant
    (files .messagingModule)
  queueByToken : InBlock "const QUEUE_BY_TOKEN: Record<string, string> = \x7b" "\x7d;"
    (queueByTokenEntry name) (files .messagingModule)
  serviceName : OnLine "export type ServiceName = " name.camel (files .rpcClientService)
  pickClient : InBlock "  private pickClient(service: ServiceName): ClientProxy \x7b" "  \x7d"
    (pickClientEntry name) (files .rpcClientService)

/-- The script runs once per name, each run leaves the anchors of the next one, and the services
are all wired under different names. -/
structure Composes (names : List ServiceName) : Prop where
  wired : ∃ repository, scaffoldAll names template = .ok repository ∧
    ∀ name ∈ names, Wired repository.files name
  anchored : ∀ done next rest, names = done ++ next :: rest →
    ∀ repository, scaffoldAll done template = .ok repository →
      ∀ edit ∈ edits next, literal edit.anchor <:+: repository.files edit.file
  queues_nodup : (names.map ServiceName.queue).Nodup
  constants_nodup : (names.map ServiceName.constant).Nodup
  camels_nodup : (names.map ServiceName.camel).Nodup

/-! ## A run on the template -/

section Single

variable {name : ServiceName} {repository : Repository}

/-- The repository after a first run. -/
def scaffolded (name : ServiceName) : Repository where
  apps := template.apps ++ [name.kebab]
  files file := fileText (wiredLines name file)
  projects := template.projects ++ [name.kebab]

/-- A first run on the template succeeds for each name that is no project and no property
that objects inherit, and leaves the scaffolded repository. -/
theorem scaffold_template_eq_ok_iff : scaffold template name = .ok repository ↔
    (name.kebab ∉ template.projects ∧ name.kebab ∉ objectPrototypeNames) ∧
      scaffolded name = repository := by
  have apps_subset : template.apps ⊆ template.projects := List.subset_append_left _ _
  rw [scaffold, foldlM_edits]
  by_cases directory : name.kebab ∈ template.apps
  · rw [if_pos directory]
    constructor
    · intro aborted
      cases aborted
    · intro fresh
      exact (fresh.1.1 (apps_subset directory)).elim
  · rw [if_neg directory]
    by_cases project : name.kebab ∈ template.projects ∨ name.kebab ∈ objectPrototypeNames
    · constructor
      · intro aborted
        simp only [project, ↓reduceIte] at aborted
        cases aborted
      · intro fresh
        exact (project.elim fresh.1.1 fresh.1.2).elim
    · constructor
      · intro ran
        simp only [project, ↓reduceIte] at ran
        exact ⟨not_or.mp project, Except.ok.inj ran⟩
      · intro fresh
        obtain ⟨-, rfl⟩ := fresh
        simp only [project, ↓reduceIte]
        rfl

/-- The anchor of a site is a part of the text. -/
theorem literal_infix_fileText {sites : List Site} {site : Site} (member : site ∈ sites)
    (lines : List String) :
    literal site.edit.anchor <:+: fileText (siteLines Edit.anchor sites ++ lines) := by
  rcases eq_or_ne site.edit.anchor [] with none | filled
  · rw [none]
    exact List.nil_infix
  · obtain ⟨front, back, rfl⟩ := List.append_of_mem member
    have anchor_ne : site.edit.anchor.map String.toList ≠ [] := mt List.map_eq_nil_iff.mp filled
    have text : block '\n' (site.edit.anchor.map String.toList) ++
        '\n' :: fileText (siteLines Edit.anchor back ++ lines) =
          unlines '\n' (site.edit.anchor.map String.toList) ++
            fileText (siteLines Edit.anchor back ++ lines) := block_append_break anchor_ne _
    refine ⟨fileText (siteLines Edit.anchor front ++ site.before),
      '\n' :: fileText (siteLines Edit.anchor back ++ lines), ?_⟩
    rw [List.append_assoc, literal, text]
    simp only [fileText, siteLines, ← unlines_append, ← List.map_append, List.flatMap_append,
      List.flatMap_cons, List.append_assoc]

/-- The anchors of a run are in the template. -/
theorem anchor_infix_template {edit : Edit} (planned : edit ∈ edits name) :
    literal edit.anchor <:+: template.files edit.file := by
  rw [edits_eq, List.mem_flatMap] at planned
  obtain ⟨file, -, ofFile⟩ := planned
  obtain rfl := file_of_mem_sites name edit ofFile
  obtain ⟨site, isSite, rfl⟩ := List.mem_map.mp ofFile
  have found := literal_infix_fileText isSite (lastLines site.edit.file)
  rw [← lines_eq] at found
  exact found

/-- After a first run the service is wired: in each of the five files its lines stand where
the script puts them. -/
theorem wired_scaffolded : Wired (scaffolded name).files name where
  queues := by
    refine ⟨queueConstantsHead, ["  USER_SERVICE: 'user_service_queue',"],
      queueConstantsPatterns ++ (tokensAnchor ++ [tokensEntry name] ++ queueConstantsTail),
      congrArg fileText rfl, ?_⟩
    simp
  serviceTokens := by
    refine ⟨queueConstantsHead ++ (queuesAnchor ++ [queuesEntry name]) ++ queueConstantsPatterns,
      ["  USER_SERVICE: 'USER_SERVICE',"], queueConstantsTail, congrArg fileText rfl, ?_⟩
    simp
  allServices := by
    refine ⟨messagingModuleHead, "'USER_SERVICE', ", "];", messagingModuleBetween ++
      ([queueByTokenAnchor] ++ [queueByTokenEntry name] ++ messagingModuleTail), ?_, ?_⟩
    · have line : allServicesLine name = "const ALL_SERVICES: ServiceKey[] = [" ++
          "'USER_SERVICE', " ++ "'" ++ name.constant ++ "'" ++ "];" := by
        unfold allServicesLine
        rw [← String.toList_inj]
        simp
      rw [← line]
      rfl
    · simp
  queueByToken := by
    refine ⟨messagingModuleHead ++ [allServicesLine name] ++ [""], [queueByTokenAnchor],
      messagingModuleTail, congrArg fileText rfl, ?_⟩
    simp [queueByTokenAnchor]
  serviceName := by
    refine ⟨rpcClientServiceHead, "'user' | ", ";", rpcClientServiceClass ++
      (injectAnchor ++ injectLines name) ++ rpcClientServiceConstructor ++
      (routingAnchor ++ routingLines name) ++ rpcClientServiceEvents ++
      ([pickClientAnchor] ++ [pickClientEntry name]) ++ rpcClientServiceTail, ?_, ?_⟩
    · have line : serviceNameLine name = "export type ServiceName = " ++ "'user' | " ++ "'" ++
          name.camel ++ "'" ++ ";" := by
        unfold serviceNameLine
        rw [← String.toList_inj]
        simp
      rw [← line]
      rfl
    · simp
  pickClient := by
    refine ⟨rpcClientServiceHead ++ [serviceNameLine name] ++ rpcClientServiceClass ++
      (injectAnchor ++ injectLines name) ++ rpcClientServiceConstructor ++
      (routingAnchor ++ routingLines name) ++ rpcClientServiceEvents.dropLast,
      [pickClientAnchor], rpcClientServiceTail, congrArg fileText rfl, ?_⟩
    simp [pickClientAnchor]

/-- No name is a list of the services with its own one as the only one. -/
theorem free_allServicesLine_self : Free [allServicesAnchor] [allServicesLine name] := by
  have anchor : allServicesAnchor.toList =
      "const ALL_SERVICES: ServiceKey[] ".toList ++ '=' :: " ['USER_SERVICE'];".toList := by
    simp [allServicesAnchor]
  have line : (allServicesLine name).toList = "const ALL_SERVICES: ServiceKey[] ".toList ++
      '=' :: (" ['USER_SERVICE', '".toList ++ (name.constant ++ "'];").toList) := by
    unfold allServicesLine
    simp
  rw [Free, List.forall_mem_singleton, List.forall_mem_singleton]
  constructor
  · unfold allServicesLine
    simp (disch := decide) [(isWord_constant name).not_mem]
  · rw [anchor, line]
    intro found
    obtain ⟨-, start⟩ := suffix_and_prefix_of_infix (by decide)
      (by simp (disch := decide) [(isWord_constant name).not_mem]) found
    have shorter := List.prefix_of_prefix_length_le start (List.prefix_append _ _) (by decide)
    revert shorter
    decide

/-- After a first run the list of services is not the anchor any more, since the new name
stands in it. -/
theorem not_infix_scaffolded :
    ¬literal [allServicesAnchor] <:+: (scaffolded name).files .messagingModule := by
  have others := freeTemplate.allServices
  simp only [free_append] at others
  obtain ⟨⟨⟨head, between⟩, anchor⟩, tail⟩ := others
  have entries : Free [allServicesAnchor] ([queueByTokenAnchor] ++ [queueByTokenEntry name]) :=
    free_append.mpr ⟨anchor, Free.of_plain (List.forall_mem_singleton.mpr
      ⟨_, mem_of_spelled rfl (by decide), plain_queueByTokenEntry name⟩)⟩
  have free : Free [allServicesAnchor] (messagingModuleHead ++ [allServicesLine name] ++
      (messagingModuleBetween ++ ([queueByTokenAnchor] ++ [queueByTokenEntry name])) ++
      messagingModuleTail) :=
    free_append.mpr ⟨free_append.mpr ⟨free_append.mpr ⟨head, free_allServicesLine_self⟩,
      free_append.mpr ⟨between, entries⟩⟩, tail⟩
  have lines : wiredLines name .messagingModule = messagingModuleHead ++ [allServicesLine name] ++
      (messagingModuleBetween ++ ([queueByTokenAnchor] ++ [queueByTokenEntry name])) ++
      messagingModuleTail := rfl
  rw [← lines] at free
  apply free.not_infix (not_mem_of_spelled rfl (by decide))
  intro empty
  have first : 'c' ∈ allServicesAnchor.toList := mem_of_spelled rfl (by decide)
  rw [empty] at first
  cases first

end Single

/-! ## A second run -/

/-- A second run aborts, whatever the names. -/
theorem scaffold_scaffolded (first second : ServiceName) :
    ∃ message, scaffold (scaffolded first) second = .error message := by
  have order : edits second = (edits second).take 2 ++
      ⟨.messagingModule, [allServicesAnchor], [allServicesLine second]⟩ :: (edits second).drop 3 :=
    rfl
  have aborted : ∃ message, (edits second).foldlM planEdit (scaffolded first).files =
      .error message := by
    rw [order]
    apply foldlM_planEdit_eq_error
    · simp [edits, Edit.after]
    · exact not_infix_scaffolded
  obtain ⟨message, aborted⟩ := aborted
  rw [scaffold, aborted]
  split
  · exact ⟨_, rfl⟩
  · exact ⟨_, rfl⟩

/-- Several services are scaffolded when the first one is, and the others on the repository
that leaves. -/
theorem scaffoldAll_cons_eq_ok_iff {name : ServiceName} {names : List ServiceName}
    {before after : Repository} : scaffoldAll (name :: names) before = .ok after ↔
      ∃ once, scaffold before name = .ok once ∧ scaffoldAll names once = .ok after := by
  rw [scaffoldAll, List.foldlM_cons]
  cases scaffold before name with
  | error message =>
      constructor
      · intro ran
        cases ran
      · intro ran
        obtain ⟨once, failed, -⟩ := ran
        cases failed
  | ok once =>
      constructor
      · intro ran
        exact ⟨once, rfl, ran⟩
      · intro ran
        obtain ⟨other, same, ran⟩ := ran
        cases same
        exact ran

/-- The script does not run twice: its second run misses an anchor that the first one has
replaced. -/
theorem not_composes_cons_cons (first second : ServiceName) (others : List ServiceName) :
    ¬Composes (first :: second :: others) := by
  intro composes
  obtain ⟨repository, ran, -⟩ := composes.wired
  obtain ⟨once, firstRan, ran⟩ := scaffoldAll_cons_eq_ok_iff.mp ran
  obtain ⟨-, rfl⟩ := scaffold_template_eq_ok_iff.mp firstRan
  obtain ⟨twice, secondRan, -⟩ := scaffoldAll_cons_eq_ok_iff.mp ran
  obtain ⟨message, aborted⟩ := scaffold_scaffolded first second
  rw [aborted] at secondRan
  cases secondRan

/-- A single service with a new name of its own is wired. -/
theorem composes_singleton {name : ServiceName} (unregistered : name.kebab ∉ template.projects)
    (own : name.kebab ∉ objectPrototypeNames) : Composes [name] where
  wired := by
    have ran : scaffold template name = .ok (scaffolded name) :=
      scaffold_template_eq_ok_iff.mpr ⟨⟨unregistered, own⟩, rfl⟩
    refine ⟨scaffolded name, scaffoldAll_cons_eq_ok_iff.mpr ⟨_, ran, rfl⟩, ?_⟩
    exact List.forall_mem_singleton.mpr wired_scaffolded
  anchored := by
    intro done next rest split repository ran edit planned
    cases done with
    | nil =>
        cases split
        cases ran
        exact anchor_infix_template planned
    | cons entry done => cases done <;> cases split
  queues_nodup := List.nodup_singleton _
  constants_nodup := List.nodup_singleton _
  camels_nodup := List.nodup_singleton _

/-- No services are wired by doing nothing. -/
theorem composes_nil : Composes [] where
  wired := ⟨template, rfl, List.forall_mem_nil _⟩
  anchored := by
    intro done next rest split
    cases done <;> cases split
  queues_nodup := List.nodup_nil
  constants_nodup := List.nodup_nil
  camels_nodup := List.nodup_nil

/-- Scaffolding composes for at most one service, whose name is no project yet: a second run
misses an anchor that the first one has replaced. -/
theorem composes_iff (names : List ServiceName) : Composes names ↔
    names.length ≤ 1 ∧
      ∀ name ∈ names, name.kebab ∉ template.projects ∧ name.kebab ∉ objectPrototypeNames := by
  cases names with
  | nil => exact iff_of_true composes_nil ⟨Nat.zero_le 1, List.forall_mem_nil _⟩
  | cons name others =>
      cases others with
      | nil =>
          rw [List.forall_mem_singleton]
          constructor
          · intro composes
            obtain ⟨repository, ran, -⟩ := composes.wired
            obtain ⟨once, ran, -⟩ := scaffoldAll_cons_eq_ok_iff.mp ran
            exact ⟨Nat.le_refl 1, (scaffold_template_eq_ok_iff.mp ran).1⟩
          · intro fresh
            exact composes_singleton fresh.2.1 fresh.2.2
      | cons second others =>
          apply iff_of_false (not_composes_cons_cons name second others)
          intro few
          have most := few.1
          simp only [List.length_cons] at most
          omega

/-- The services billing and habit-tracker are well named and new, and still the second run
of the script aborts. -/
theorem not_composes_billing_habitTracker :
    (∀ kebab ∈ ["billing", "habit-tracker"], isKebab kebab = true ∧ kebab ∉ template.apps) ∧
      ¬Composes [⟨"billing", by decide⟩, ⟨"habit-tracker", by decide⟩] :=
  ⟨by decide, not_composes_cons_cons _ _ _⟩

end NestMonorepo
