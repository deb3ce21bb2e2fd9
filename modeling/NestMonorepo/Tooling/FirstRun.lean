import NestMonorepo.Tooling.Scaffold
import Mathlib.Data.List.Forall2

/-! # A first run of the scaffold

In the template every anchor starts on a line whose text is nowhere else, and no line that an
edit inserts has the text of a later anchor. So a run on the template finds all its anchors,
whatever the name.
-/

namespace NestMonorepo

open Collections

/-! ## The lines between the anchors -/

/-- Texts as the characters that spell them. -/
def SpelledOut : List String → List (List Char) → Prop :=
  List.Forall₂ fun text chars => text = String.ofList chars

section Spelling

variable {text : String} {lines : List String} {chars : List Char} {lineChars : List (List Char)}

/-- What holds of the characters of texts holds of the texts. -/
theorem forall_of_spelled (property : List Char → Prop) (spelled : SpelledOut lines lineChars)
    (all : ∀ line ∈ lineChars, property line) : ∀ line ∈ lines, property line.toList := by
  induction spelled with
  | nil => exact List.forall_mem_nil _
  | cons same _ ih =>
      rw [List.forall_mem_cons] at all ⊢
      rw [same, String.toList_ofList]
      exact ⟨all.1, ih all.2⟩

/-- A character of the spelled list is one of the text. -/
theorem mem_of_spelled {char : Char} (spelled : text = String.ofList chars)
    (member : char ∈ chars) : char ∈ text.toList := by
  rw [spelled, String.toList_ofList]
  exact member

/-- A character absent from the spelled list is absent from the text. -/
theorem not_mem_of_spelled {char : Char} (spelled : text = String.ofList chars)
    (absent : char ∉ chars) : char ∉ text.toList := by
  rw [spelled, String.toList_ofList]
  exact absent

/-- A text spelled without a line break and without the mark is plain for that mark. -/
theorem plain_of_spelled {mark : Char} (spelled : text = String.ofList chars)
    (plain : '\n' ∉ chars ∧ mark ∉ chars) : Plain mark text :=
  ⟨not_mem_of_spelled spelled plain.1, not_mem_of_spelled spelled plain.2⟩

/-- Only the lines with a certain character of the text are searched for it. -/
theorem Free.of_spelled (mark : Char) (spelled : text = String.ofList chars)
    (marked : mark ∈ chars) (linesSpelled : SpelledOut lines lineChars)
    (free : ∀ line ∈ lineChars, '\n' ∉ line ∧ (mark ∉ line ∨ ¬chars <:+: line)) :
    Free [text] lines := by
  intro line isLine
  obtain ⟨unbroken, absent⟩ := forall_of_spelled _ linesSpelled free line isLine
  rw [List.forall_mem_singleton, spelled, String.toList_ofList]
  refine ⟨unbroken, fun part => ?_⟩
  rcases absent with unmarked | absent
  · exact unmarked (part.subset marked)
  · exact absent part

end Spelling

open TemplateFile

/-- In the template no line before an anchor has the text of its first line, and nowhere else is
the list of services. -/
structure FreeTemplate : Prop where
  queues : Free ["export const QUEUES = \x7b"] queueConstantsHead
  tokens : Free ["export const SERVICE_TOKENS = \x7b"]
    (queueConstantsHead ++ queuesAnchor ++ queueConstantsPatterns)
  allServices : Free [allServicesAnchor]
    (messagingModuleHead ++ messagingModuleBetween ++ [queueByTokenAnchor] ++ messagingModuleTail)
  queueByToken : Free [queueByTokenAnchor] (messagingModuleHead ++ messagingModuleBetween)
  serviceName : Free [serviceNameAnchor] rpcClientServiceHead
  inject : Free ["    @Inject(SERVICE_TOKENS.USER_SERVICE)"]
    (rpcClientServiceHead ++ rpcClientServiceClass)
  routing : Free ["    return this.send<T>('user', this.userClient, pattern, payload, timeoutMs);"]
    (rpcClientServiceHead ++ rpcClientServiceClass ++ injectAnchor ++ rpcClientServiceConstructor)
  pickClient : Free [pickClientAnchor]
    (rpcClientServiceHead ++ rpcClientServiceClass ++ injectAnchor ++
      rpcClientServiceConstructor ++ routingAnchor ++ rpcClientServiceEvents)
  volumes : ∀ line ∈ dockerComposeHead ++ [""],
    '\n' ∉ line.toList ∧ ¬"volumes:".toList <+: line.toList
  choice : Free ["          - gateway"] deployWorkflowHead
  deployed : Free [deployedAnchor] (deployWorkflowHead ++ choiceAnchor ++ deployWorkflowInputs)

set_option maxRecDepth 4000 in
/-- In the repository's five template files no line before an anchor has the text of the
anchor's first line, so each anchor is found where it stands. -/
theorem freeTemplate : FreeTemplate where
  queues := by
    apply Free.of_spelled 'Q' rfl (by decide)
    · repeat' first | exact rfl | constructor
    · decide +kernel
  tokens := by
    apply Free.of_spelled 'K' rfl (by decide)
    · repeat' first | exact rfl | constructor
    · decide +kernel
  allServices := by
    apply Free.of_spelled 'K' rfl (by decide)
    · repeat' first | exact rfl | constructor
    · decide +kernel
  queueByToken := by
    apply Free.of_spelled 'Q' rfl (by decide)
    · repeat' first | exact rfl | constructor
    · decide +kernel
  serviceName := by
    apply Free.of_spelled 'N' rfl (by decide)
    · repeat' first | exact rfl | constructor
    · decide +kernel
  inject := by
    apply Free.of_spelled '@' rfl (by decide)
    · repeat' first | exact rfl | constructor
    · decide +kernel
  routing := by
    apply Free.of_spelled 'M' rfl (by decide)
    · repeat' first | exact rfl | constructor
    · decide +kernel
  pickClient := by
    apply Free.of_spelled 'C' rfl (by decide)
    · repeat' first | exact rfl | constructor
    · decide +kernel
  volumes := by
    have spelled : "volumes:" = String.ofList ['v', 'o', 'l', 'u', 'm', 'e', 's', ':'] := rfl
    rw [spelled, String.toList_ofList]
    apply forall_of_spelled
      fun line => '\n' ∉ line ∧ ¬['v', 'o', 'l', 'u', 'm', 'e', 's', ':'] <+: line
    · repeat' first | exact rfl | constructor
    · decide +kernel
  choice := by
    apply Free.of_spelled 'g' rfl (by decide)
    · repeat' first | exact rfl | constructor
    · decide +kernel
  deployed := by
    apply Free.of_spelled 'A' rfl (by decide)
    · repeat' first | exact rfl | constructor
    · decide +kernel

/-! ## The lines that the edits insert -/

section Insertions

variable (name : ServiceName)

/-- The entry of the queue map has no opening brace and stays on one line. -/
theorem plain_queuesEntry : Plain '\x7b' (queuesEntry name) := by
  have constant : Plain '\x7b' name.constant := (isWord_constant name).plain rfl
  have queue : Plain '\x7b' name.queue := (isWord_queue name).plain rfl
  unfold queuesEntry
  repeat' first
    | with_reducible exact constant
    | with_reducible exact queue
    | with_reducible apply Plain.append
    | exact plain_of_spelled rfl (by decide)

/-- The line of the service list has no dot and stays on one line. -/
theorem plain_allServicesLine : Plain '.' (allServicesLine name) := by
  have constant : Plain '.' name.constant := (isWord_constant name).plain rfl
  unfold allServicesLine
  repeat' first
    | with_reducible exact constant
    | with_reducible apply Plain.append
    | exact plain_of_spelled rfl (by decide)

/-- The entry of the token map has no equals sign and stays on one line. -/
theorem plain_queueByTokenEntry : Plain '=' (queueByTokenEntry name) := by
  have constant : Plain '=' name.constant := (isWord_constant name).plain rfl
  unfold queueByTokenEntry
  repeat' first
    | with_reducible exact constant
    | with_reducible apply Plain.append
    | exact plain_of_spelled rfl (by decide)

/-- The line of the service name has no opening parenthesis and stays on one line. -/
theorem plain_serviceNameLine : Plain '(' (serviceNameLine name) := by
  have camel : Plain '(' name.camel := (isWord_camel name).plain rfl
  unfold serviceNameLine
  repeat' first
    | with_reducible exact camel
    | with_reducible apply Plain.append
    | exact plain_of_spelled rfl (by decide)

/-- No line of the injected client has a semicolon. -/
theorem plain_injectLines : ∀ line ∈ injectLines name, Plain ';' line := by
  have constant : Plain ';' name.constant := (isWord_constant name).plain rfl
  have camel : Plain ';' name.camel := (isWord_camel name).plain rfl
  unfold injectLines
  repeat' first
    | with_reducible exact constant
    | with_reducible exact camel
    | with_reducible apply Plain.append
    | with_reducible exact List.forall_mem_nil _
    | with_reducible refine List.forall_mem_cons.mpr ⟨?_, ?_⟩
    | exact plain_of_spelled rfl (by decide)

/-- The method's own name is quoted on a line without brackets. -/
theorem plain_routingLines : ∀ line ∈ routingLines name, Plain '\'' line ∨ Plain '(' line := by
  have quote : Plain '\'' name.camel := (isWord_camel name).plain rfl
  have bracket : Plain '(' name.camel := (isWord_camel name).plain rfl
  unfold routingLines
  repeat' first
    | with_reducible exact List.forall_mem_nil _
    | with_reducible refine List.forall_mem_cons.mpr ⟨?_, ?_⟩
    | with_reducible exact .inl (plain_of_spelled rfl (by decide))
  · apply Or.inl
    repeat' first
      | with_reducible exact quote
      | with_reducible apply Plain.append
      | exact plain_of_spelled rfl (by decide)
  · apply Or.inr
    repeat' first
      | with_reducible exact bracket
      | with_reducible apply Plain.append
      | exact plain_of_spelled rfl (by decide)
  · apply Or.inl
    repeat' first
      | with_reducible exact quote
      | with_reducible apply Plain.append
      | exact plain_of_spelled rfl (by decide)

/-- The choice of the deploy workflow has no colon and stays on one line. -/
theorem plain_choiceEntry : Plain ':' (choiceEntry name) := by
  have kebab : Plain ':' name.kebab := (isWord_kebab name).plain rfl
  unfold choiceEntry
  repeat' first
    | with_reducible exact kebab
    | with_reducible apply Plain.append
    | exact plain_of_spelled rfl (by decide)

end Insertions

/-! ## A first run -/

section FirstRun

variable (name : ServiceName)

/-- The edits of each file, with the lines of the template between them. -/
def sites : TemplateFile → List Site
  | .queueConstants =>
      [⟨queueConstantsHead, .after .queueConstants queuesAnchor [queuesEntry name]⟩,
        ⟨queueConstantsPatterns, .after .queueConstants tokensAnchor [tokensEntry name]⟩]
  | .messagingModule =>
      [⟨messagingModuleHead, ⟨.messagingModule, [allServicesAnchor], [allServicesLine name]⟩⟩,
        ⟨messagingModuleBetween,
          .after .messagingModule [queueByTokenAnchor] [queueByTokenEntry name]⟩]
  | .rpcClientService =>
      [⟨rpcClientServiceHead, ⟨.rpcClientService, [serviceNameAnchor], [serviceNameLine name]⟩⟩,
        ⟨rpcClientServiceClass, .after .rpcClientService injectAnchor (injectLines name)⟩,
        ⟨rpcClientServiceConstructor,
          .after .rpcClientService routingAnchor (routingLines name)⟩,
        ⟨rpcClientServiceEvents,
          .after .rpcClientService [pickClientAnchor] [pickClientEntry name]⟩]
  | .dockerCompose =>
      [⟨dockerComposeHead, ⟨.dockerCompose, volumesAnchor, composeLines name ++ volumesAnchor⟩⟩]
  | .deployWorkflow =>
      [⟨deployWorkflowHead, .after .deployWorkflow choiceAnchor [choiceEntry name]⟩,
        ⟨deployWorkflowInputs,
          ⟨.deployWorkflow, [deployedAnchor], [deployedAnchor ++ "," ++ name.kebab]⟩⟩]

/-- What stands after the last edit of a file. -/
def lastLines : TemplateFile → List String
  | .queueConstants => queueConstantsTail
  | .messagingModule => messagingModuleTail
  | .rpcClientService => rpcClientServiceTail
  | .dockerCompose => dockerComposeTail
  | .deployWorkflow => deployWorkflowTail

/-- The lines of a file after a first run. -/
def wiredLines (file : TemplateFile) : List String :=
  siteLines Edit.replacement (sites name file) ++ lastLines file

/-- A template file is its sites in order, each with its anchor line, followed by the lines
after the last site. -/
theorem lines_eq (file : TemplateFile) :
    file.lines = siteLines Edit.anchor (sites name file) ++ lastLines file := by
  cases file <;> rfl

/-- The edits of one scaffolding are those of the five files, file by file and site by site. -/
theorem edits_eq : edits name =
    [queueConstants, messagingModule, rpcClientService, dockerCompose, deployWorkflow].flatMap
      fun file => (sites name file).map Site.edit := rfl

/-- The edits collected for a file are edits of that file. -/
theorem file_of_mem_sites {file : TemplateFile} :
    ∀ edit ∈ (sites name file).map Site.edit, edit.file = file := by
  cases file <;> simp [sites, Edit.after]

/-- In the queue constants each edit finds its anchor after the edits before it. -/
theorem compatible_queueConstants : Compatible [] (sites name .queueConstants) := by
  have tokens := freeTemplate.tokens
  simp only [free_append] at tokens
  obtain ⟨⟨head, anchor⟩, patterns⟩ := tokens
  have entry : Free ["export const SERVICE_TOKENS = \x7b"] [queuesEntry name] :=
    Free.of_plain (List.forall_mem_singleton.mpr
      ⟨_, mem_of_spelled rfl (by decide), plain_queuesEntry name⟩)
  constructor
  · apply Edit.applies_of_free
    · exact not_mem_of_spelled rfl (by decide)
    · exact List.cons_ne_nil _ _
    · exact freeTemplate.queues
  constructor
  · apply Edit.applies_of_free
    · exact not_mem_of_spelled rfl (by decide)
    · exact List.cons_ne_nil _ _
    · simp only [free_append]
      exact ⟨⟨⟨free_nil, head⟩, free_append.mpr ⟨anchor, entry⟩⟩, patterns⟩
  · trivial

/-- In the messaging module each edit finds its anchor after the edits before it. -/
theorem compatible_messagingModule : Compatible [] (sites name .messagingModule) := by
  have allServices := freeTemplate.allServices
  simp only [free_append] at allServices
  obtain ⟨head, between⟩ := free_append.mp freeTemplate.queueByToken
  have line : Free [queueByTokenAnchor] [allServicesLine name] :=
    Free.of_plain (List.forall_mem_singleton.mpr
      ⟨_, mem_of_spelled rfl (by decide), plain_allServicesLine name⟩)
  constructor
  · apply Edit.applies_of_free
    · exact not_mem_of_spelled rfl (by decide)
    · exact List.cons_ne_nil _ _
    · exact allServices.1.1.1
  constructor
  · apply Edit.applies_of_free
    · exact not_mem_of_spelled rfl (by decide)
    · exact List.cons_ne_nil _ _
    · simp only [free_append]
      exact ⟨⟨⟨free_nil, head⟩, line⟩, between⟩
  · trivial

/-- In the RPC client each edit finds its anchor after the edits before it. -/
theorem compatible_rpcClientService : Compatible [] (sites name .rpcClientService) := by
  have inject := freeTemplate.inject
  have routing := freeTemplate.routing
  have pickClient := freeTemplate.pickClient
  simp only [free_append] at inject routing pickClient
  have line : ∀ text, '(' ∈ text.toList → Free [text] [serviceNameLine name] :=
    fun _ marked => Free.of_plain (List.forall_mem_singleton.mpr
      ⟨_, marked, plain_serviceNameLine name⟩)
  have injected : ∀ text, ';' ∈ text.toList → Free [text] (injectLines name) :=
    fun _ marked => Free.of_plain fun line isLine =>
      ⟨_, marked, plain_injectLines name line isLine⟩
  have routed : Free [pickClientAnchor] (routingLines name) := by
    apply Free.of_plain
    intro line isLine
    rcases plain_routingLines name line isLine with quote | bracket
    · exact ⟨_, mem_of_spelled rfl (by decide), quote⟩
    · exact ⟨_, mem_of_spelled rfl (by decide), bracket⟩
  constructor
  · apply Edit.applies_of_free
    · exact not_mem_of_spelled rfl (by decide)
    · exact List.cons_ne_nil _ _
    · exact freeTemplate.serviceName
  constructor
  · apply Edit.applies_of_free
    · exact not_mem_of_spelled rfl (by decide)
    · exact List.cons_ne_nil _ _
    · simp only [free_append]
      exact ⟨⟨⟨free_nil, inject.1⟩, line _ (mem_of_spelled rfl (by decide))⟩, inject.2⟩
  constructor
  · apply Edit.applies_of_free
    · exact not_mem_of_spelled rfl (by decide)
    · exact List.cons_ne_nil _ _
    · obtain ⟨⟨⟨head, body⟩, anchor⟩, constructed⟩ := routing
      simp only [free_append]
      exact ⟨⟨⟨⟨⟨free_nil, head⟩, line _ (mem_of_spelled rfl (by decide))⟩, body⟩,
        free_append.mpr ⟨anchor, injected _ (mem_of_spelled rfl (by decide))⟩⟩, constructed⟩
  constructor
  · apply Edit.applies_of_free
    · exact not_mem_of_spelled rfl (by decide)
    · exact List.cons_ne_nil _ _
    · obtain ⟨⟨⟨⟨⟨head, body⟩, anchor⟩, constructed⟩, routingAnchor⟩, events⟩ := pickClient
      simp only [free_append]
      exact ⟨⟨⟨⟨⟨⟨⟨free_nil, head⟩, line _ (mem_of_spelled rfl (by decide))⟩, body⟩,
        free_append.mpr ⟨anchor, injected _ (mem_of_spelled rfl (by decide))⟩⟩, constructed⟩,
          free_append.mpr ⟨routingAnchor, routed⟩⟩, events⟩
  · trivial

/-- In the compose file each edit finds its anchor after the edits before it. -/
theorem compatible_dockerCompose : Compatible [] (sites name .dockerCompose) := by
  constructor
  · exact Edit.applies_of_not_prefix (not_mem_of_spelled rfl (by decide))
      (not_mem_of_spelled rfl (by decide)) (List.cons_ne_nil _ _) freeTemplate.volumes
  · trivial

/-- In the deploy workflow each edit finds its anchor after the edits before it. -/
theorem compatible_deployWorkflow : Compatible [] (sites name .deployWorkflow) := by
  have deployed := freeTemplate.deployed
  simp only [free_append] at deployed
  obtain ⟨⟨head, anchor⟩, inputs⟩ := deployed
  have entry : Free [deployedAnchor] [choiceEntry name] :=
    Free.of_plain (List.forall_mem_singleton.mpr
      ⟨_, mem_of_spelled rfl (by decide), plain_choiceEntry name⟩)
  constructor
  · apply Edit.applies_of_free
    · exact not_mem_of_spelled rfl (by decide)
    · exact List.cons_ne_nil _ _
    · exact freeTemplate.choice
  constructor
  · apply Edit.applies_of_free
    · exact not_mem_of_spelled rfl (by decide)
    · exact List.cons_ne_nil _ _
    · simp only [free_append]
      exact ⟨⟨⟨free_nil, head⟩, free_append.mpr ⟨anchor, entry⟩⟩, inputs⟩
  · trivial

/-- In every template file each edit finds its anchor after the edits before it, so the plan
can be applied in order. -/
theorem compatible (file : TemplateFile) : Compatible [] (sites name file) := by
  cases file with
  | queueConstants => exact compatible_queueConstants name
  | messagingModule => exact compatible_messagingModule name
  | rpcClientService => exact compatible_rpcClientService name
  | dockerCompose => exact compatible_dockerCompose name
  | deployWorkflow => exact compatible_deployWorkflow name

/-- The edits of some files wire these and leave the others. The induction is on the files,
each of which is edited on its own. -/
theorem foldlM_sites {chosen : List TemplateFile} {files : Files} (distinct : chosen.Nodup)
    (standing : ∀ file ∈ chosen, files file = fileText file.lines) :
    (chosen.flatMap fun file => (sites name file).map Site.edit).foldlM planEdit files =
      .ok fun file => if file ∈ chosen then fileText (wiredLines name file) else files file := by
  induction chosen generalizing files with
  | nil =>
      simp only [List.not_mem_nil, ↓reduceIte]
      rfl
  | cons file chosen ih =>
      obtain ⟨absent, distinct⟩ := List.nodup_cons.mp distinct
      obtain ⟨here, others⟩ := List.forall_mem_cons.mp standing
      have applied : applyEdits ((sites name file).map Site.edit) (files file) =
          some (fileText (wiredLines name file)) := by
        rw [here, lines_eq name]
        exact applyEdits_of_compatible (compatible name file)
      have later : ∀ other ∈ chosen,
          Function.update files file (fileText (wiredLines name file)) other =
            fileText other.lines := by
        intro other member
        rw [Function.update_of_ne (ne_of_mem_of_not_mem member absent), others other member]
      rw [List.flatMap_cons, List.foldlM_append,
        foldlM_planEdit (file_of_mem_sites name) applied]
      refine (ih distinct later).trans (congrArg Except.ok (funext fun other => ?_))
      by_cases same : other = file
      · subst same
        rw [if_neg absent, if_pos List.mem_cons_self, Function.update_self]
      · rw [Function.update_of_ne same]
        simp only [List.mem_cons, same, false_or]

/-- A first run finds every anchor, whatever the name. -/
theorem foldlM_edits :
    (edits name).foldlM planEdit template.files =
      .ok fun file => fileText (wiredLines name file) := by
  have standing : ∀ file ∈ [queueConstants, messagingModule, rpcClientService, dockerCompose,
      deployWorkflow], template.files file = fileText file.lines := fun _ _ => rfl
  rw [edits_eq, foldlM_sites name (by decide) standing]
  apply congrArg Except.ok
  funext file
  apply if_pos
  cases file <;> decide

end FirstRun

end NestMonorepo
