import NestMonorepo.Tooling.ServiceNames
import NestMonorepo.Tooling.Template
import Mathlib.Logic.Function.Basic

/-! # Adding services to the repository

`scaffold-service.mjs` edits files of the template where it finds certain texts, its anchors.
Most edits insert after the anchor and leave it where it is, for the next service; two of them
write something else in its place.
-/

namespace NestMonorepo

open Collections

/-! ## Texts and edits -/

/-- Lines as the text of a file. -/
def fileText (lines : List String) : List Char := unlines '\n' (lines.map String.toList)

/-- Lines as a template literal. -/
def literal (lines : List String) : List Char := block '\n' (lines.map String.toList)

/-- An edit into an existing file. -/
structure Edit where
  file : TemplateFile
  anchor : List String
  replacement : List String

abbrev Files : Type := TemplateFile → List Char

/-- `planEdit`. None of the replacements has a `$` with a meaning to `replace`. -/
def planEdit (edited : Files) (edit : Edit) : Except String Files :=
  match replaceFirst? (literal edit.anchor) (literal edit.replacement) (edited edit.file) with
  | some after => .ok (Function.update edited edit.file after)
  | none => .error ("Anchor not found in " ++ edit.file.path ++
      " — the file diverged from the template.\n" ++
      "Wire the service into it manually (see README \"Adding a microservice\").\n" ++
      "Missing anchor:\n---\n" ++ String.ofList (literal edit.anchor) ++ "\n---")

/-! ## scaffold-service.mjs -/

section Edits

variable (name : ServiceName)

/-- Insertions after lines of the anchor. -/
def Edit.after (file : TemplateFile) (anchor inserted : List String) : Edit :=
  ⟨file, anchor, anchor ++ inserted⟩

def queuesAnchor : List String :=
  ["export const QUEUES = \x7b", "  USER_SERVICE: 'user_service_queue',"]

def queuesEntry : String := "  " ++ name.constant ++ ": '" ++ name.queue ++ "',"

def tokensAnchor : List String :=
  ["export const SERVICE_TOKENS = \x7b", "  USER_SERVICE: 'USER_SERVICE',"]

def tokensEntry : String := "  " ++ name.constant ++ ": '" ++ name.constant ++ "',"

def allServicesAnchor : String := "const ALL_SERVICES: ServiceKey[] = ['USER_SERVICE'];"

def allServicesLine : String :=
  "const ALL_SERVICES: ServiceKey[] = ['USER_SERVICE', '" ++ name.constant ++ "'];"

def queueByTokenAnchor : String := "  [SERVICE_TOKENS.USER_SERVICE]: QUEUES.USER_SERVICE,"

def queueByTokenEntry : String :=
  "  [SERVICE_TOKENS." ++ name.constant ++ "]: QUEUES." ++ name.constant ++ ","

def serviceNameAnchor : String := "export type ServiceName = 'user';"

def serviceNameLine : String := "export type ServiceName = 'user' | '" ++ name.camel ++ "';"

def injectAnchor : List String :=
  ["    @Inject(SERVICE_TOKENS.USER_SERVICE)", "    private readonly userClient: ClientProxy,"]

def injectLines : List String :=
  ["    @Inject(SERVICE_TOKENS." ++ name.constant ++ ")",
    "    private readonly " ++ name.camel ++ "Client: ClientProxy,"]

def routingAnchor : List String :=
  ["    return this.send<T>('user', this.userClient, pattern, payload, timeoutMs);", "  \x7d"]

def routingLines : List String :=
  ["",
    "  " ++ name.camel ++ "<T = unknown>(",
    "    pattern: string,",
    "    payload: object = \x7b\x7d,",
    "    timeoutMs?: number,",
    "  ): Promise<T> \x7b",
    "    return this.send<T>(",
    "      '" ++ name.camel ++ "',",
    "      this." ++ name.camel ++ "Client,",
    "      pattern,",
    "      payload,",
    "      timeoutMs,",
    "    );",
    "  \x7d"]

def pickClientAnchor : String := "    if (service === 'user') return this.userClient;"

def pickClientEntry : String :=
  "    if (service === '" ++ name.camel ++ "') return this." ++ name.camel ++ "Client;"

def volumesAnchor : List String := ["", "volumes:", "  mongo-data:"]

def composeLines : List String :=
  ["",
    "  " ++ name.kebab ++ ":",
    "    build:",
    "      context: .",
    "      dockerfile: Dockerfile",
    "      args:",
    "        SERVICE: " ++ name.kebab,
    "        RELEASE_TAG: $\x7bRELEASE_TAG:-dev-local\x7d",
    "    container_name: app-" ++ name.kebab,
    "    restart: unless-stopped",
    "    env_file: .env",
    "    environment:",
    "      MONGO: mongodb://mongodb:27017",
    "      RABBITMQ_URL: amqp://$\x7bRABBITMQ_USER:-guest\x7d:$\x7bRABBITMQ_PASS:-guest\x7d@rabbitmq:5672",
    "    depends_on:",
    "      mongodb:",
    "        condition: service_healthy",
    "      rabbitmq:",
    "        condition: service_healthy"]

def choiceAnchor : List String := ["          - gateway", "          - user"]

def choiceEntry : String := "          - " ++ name.kebab

def deployedAnchor : String := "  ALL_SERVICES: gateway,user"

/-- The edits, in the order in which they are planned. -/
def edits : List Edit :=
  [.after .queueConstants queuesAnchor [queuesEntry name],
    .after .queueConstants tokensAnchor [tokensEntry name],
    ⟨.messagingModule, [allServicesAnchor], [allServicesLine name]⟩,
    .after .messagingModule [queueByTokenAnchor] [queueByTokenEntry name],
    ⟨.rpcClientService, [serviceNameAnchor], [serviceNameLine name]⟩,
    .after .rpcClientService injectAnchor (injectLines name),
    .after .rpcClientService routingAnchor (routingLines name),
    .after .rpcClientService [pickClientAnchor] [pickClientEntry name],
    ⟨.dockerCompose, volumesAnchor, composeLines name ++ volumesAnchor⟩,
    .after .deployWorkflow choiceAnchor [choiceEntry name],
    ⟨.deployWorkflow, [deployedAnchor], [deployedAnchor ++ "," ++ name.kebab]⟩]

end Edits

/-- What the script reads and writes: the directories under apps/, the files with anchors, and
the names of the projects in nest-cli.json. -/
structure Repository where
  apps : List String
  files : Files
  projects : List String

/-- A run of the script. An inherited property passes for a project. -/
def scaffold (repository : Repository) (name : ServiceName) : Except String Repository := do
  if name.kebab ∈ repository.apps then
    throw ("apps/" ++ name.kebab ++ " already exists — aborting.")
  let files ← (edits name).foldlM planEdit repository.files
  if name.kebab ∈ repository.projects ∨ name.kebab ∈ objectPrototypeNames then
    throw ("nest-cli.json already has a project '" ++ name.kebab ++ "' — aborting.")
  return {
    apps := repository.apps ++ [name.kebab]
    files
    projects := repository.projects ++ [name.kebab]
  }

def scaffoldAll (names : List ServiceName) (repository : Repository) : Except String Repository :=
  names.foldlM scaffold repository

/-- The repository as it stands. -/
def template : Repository where
  apps := ["gateway", "user"]
  files file := fileText file.lines
  projects :=
    ["gateway", "user", "task-user-purge", "task-db-migrate", "common", "database", "messaging"]

/-! ## Where an edit finds its anchor -/

/-- No line has a line break or one of these texts in it. -/
def Free (texts lines : List String) : Prop :=
  ∀ line ∈ lines, '\n' ∉ line.toList ∧ ∀ text ∈ texts, ¬text.toList <:+: line.toList

/-- A text without line breaks and without a certain character. -/
def Plain (mark : Char) (text : String) : Prop := '\n' ∉ text.toList ∧ mark ∉ text.toList

/-- After these lines an edit finds its anchor, and nowhere before. -/
def Edit.Applies (edit : Edit) (front : List String) : Prop := ∀ back,
  replaceFirst? (literal edit.anchor) (literal edit.replacement)
      (fileText (front ++ edit.anchor ++ back)) =
    some (fileText (front ++ edit.replacement ++ back))

section Anchors

variable {texts lines front others replacement : List String} {text first line : String}
  {file : TemplateFile} {mark : Char}

/-- Two plain texts make a plain one. -/
theorem Plain.append {other : String} (plain : Plain mark text) (further : Plain mark other) :
    Plain mark (text ++ other) :=
  ⟨not_mem_append.mpr ⟨plain.1, further.1⟩, not_mem_append.mpr ⟨plain.2, further.2⟩⟩

/-- A word is plain for every mark that no word has. -/
theorem IsWord.plain (word : IsWord text) (foreign : isPlainChar mark = false) : Plain mark text :=
  ⟨word.not_mem rfl, word.not_mem foreign⟩

/-- No lines are free of any texts. -/
theorem free_nil : Free texts [] := List.forall_mem_nil _

/-- Lines are free of texts when both their parts are. -/
theorem free_append : Free texts (front ++ lines) ↔ Free texts front ∧ Free texts lines :=
  List.forall_mem_append

/-- Lines that each miss a character of the text. -/
theorem Free.of_plain (plain : ∀ line ∈ lines, ∃ mark ∈ text.toList, Plain mark line) :
    Free [text] lines := by
  intro line isLine
  obtain ⟨mark, isMark, unbroken, absent⟩ := plain line isLine
  exact ⟨unbroken, List.forall_mem_singleton.mpr (not_infix_of_not_mem isMark absent)⟩

/-- A line that is nowhere in a text is no anchor there. -/
theorem Free.not_infix (free : Free [text] lines) (unbroken : '\n' ∉ text.toList)
    (filled : text.toList ≠ []) : ¬literal [text] <:+: fileText lines := by
  rw [literal, List.map_singleton, block, List.intercalate_singleton, fileText]
  apply not_infix_unlines unbroken filled
  rw [List.forall_mem_map]
  exact fun line isLine => (free line isLine).2 text List.mem_cons_self

/-- An edit whose anchor starts in none of the lines before. -/
theorem Edit.applies_of_free (unbroken : '\n' ∉ first.toList) (filled : replacement ≠ [])
    (free : Free [first] front) : Edit.Applies ⟨file, first :: others, replacement⟩ front := by
  intro back
  have lines_ne : replacement.map String.toList ≠ [] := mt List.map_eq_nil_iff.mp filled
  have absent : ∀ line ∈ front, ¬first.toList <:+: line.toList := fun line isLine =>
    (free line isLine).2 first List.mem_cons_self
  rw [fileText, fileText, literal, literal]
  simp only [List.map_append, List.map_cons]
  cases others with
  | nil =>
      rw [List.map_nil, block, List.intercalate_singleton, List.append_assoc,
        List.singleton_append]
      apply replaceFirst?_single unbroken lines_ne
      rw [List.forall_mem_map]
      exact absent
  | cons next others =>
      apply replaceFirst?_several unbroken lines_ne
      apply clear_of_not_suffix
      rw [List.forall_mem_map]
      intro line isLine
      exact ⟨(free line isLine).1, mt List.IsSuffix.isInfix (absent line isLine)⟩

/-- An edit whose anchor's second line starts none of the lines before. -/
theorem Edit.applies_of_not_prefix {next : String} (unbroken : '\n' ∉ first.toList)
    (whole : '\n' ∉ next.toList) (filled : replacement ≠ [])
    (absent : ∀ line ∈ front ++ [first], '\n' ∉ line.toList ∧ ¬next.toList <+: line.toList) :
    Edit.Applies ⟨file, first :: next :: others, replacement⟩ front := by
  intro back
  rw [fileText, fileText, literal, literal]
  simp only [List.map_append, List.map_cons]
  apply replaceFirst?_several unbroken (mt List.map_eq_nil_iff.mp filled)
  apply clear_of_not_prefix whole
  rw [← List.map_singleton, ← List.map_append, List.forall_mem_map]
  exact absent

end Anchors

/-! ## Edits of one file -/

/-- An edit with the lines that stand between it and the edit before. -/
structure Site where
  before : List String
  edit : Edit

/-- Lines of a file with the anchors, or the replacements, of its edits. -/
def siteLines (part : Edit → List String) (sites : List Site) : List String :=
  sites.flatMap fun site => site.before ++ part site.edit

/-- Each edit finds its anchor after the edits before it. -/
def Compatible : List String → List Site → Prop
  | _, [] => True
  | front, site :: sites => site.edit.Applies (front ++ site.before) ∧
      Compatible (front ++ site.before ++ site.edit.replacement) sites

section Runs

variable {files : Files} {file : TemplateFile} {after : List Char} {planned : List Edit}
  {sites : List Site} {front back : List String}

/-- The edits of one file, one after the other. -/
def applyEdits (planned : List Edit) (text : List Char) : Option (List Char) :=
  planned.foldlM (fun text edit =>
    replaceFirst? (literal edit.anchor) (literal edit.replacement) text) text

/-- Compatible edits replace the anchors and leave the rest of the file. -/
theorem applyEdits_of_compatible (compatible : Compatible front sites) :
    applyEdits (sites.map Site.edit) (fileText (front ++ siteLines Edit.anchor sites ++ back)) =
      some (fileText (front ++ siteLines Edit.replacement sites ++ back)) := by
  induction sites generalizing front with
  | nil => rfl
  | cons site sites ih =>
      obtain ⟨here, further⟩ := compatible
      have found := here (siteLines Edit.anchor sites ++ back)
      have others := ih further
      simp only [siteLines, List.flatMap_cons, ← List.append_assoc] at found others ⊢
      rw [List.map_cons, applyEdits, List.foldlM_cons, found]
      exact others

/-- Edits of one file change nothing else. -/
theorem foldlM_planEdit (same : ∀ edit ∈ planned, edit.file = file)
    (applied : applyEdits planned (files file) = some after) :
    planned.foldlM planEdit files = .ok (Function.update files file after) := by
  induction planned generalizing files with
  | nil =>
      rw [applyEdits, List.foldlM_nil] at applied
      rw [← Option.some.inj applied, Function.update_eq_self]
      rfl
  | cons edit planned ih =>
      rw [List.forall_mem_cons] at same
      obtain ⟨rfl, same⟩ := same
      rw [applyEdits, List.foldlM_cons] at applied
      obtain ⟨between, replaced, applied⟩ := Option.bind_eq_some_iff.mp applied
      have planned_eq : planEdit files edit = .ok (Function.update files edit.file between) := by
        rw [planEdit, replaced]
      rw [List.foldlM_cons, planned_eq]
      have here : Function.update files edit.file between edit.file = between :=
        Function.update_self _ _ _
      rw [← here] at applied
      exact (ih same applied).trans (by rw [Function.update_idem])

/-- Edits abort at an anchor that is not in its file. -/
theorem foldlM_planEdit_eq_error {edit : Edit}
    (others : ∀ earlier ∈ planned, earlier.file ≠ edit.file)
    (absent : ¬literal edit.anchor <:+: files edit.file) (later : List Edit) :
    ∃ message, (planned ++ edit :: later).foldlM planEdit files = .error message := by
  induction planned generalizing files with
  | nil =>
      rw [List.nil_append, List.foldlM_cons, planEdit, replaceFirst?_eq_none_iff.mpr absent]
      exact ⟨_, rfl⟩
  | cons earlier planned ih =>
      rw [List.forall_mem_cons] at others
      obtain ⟨other, others⟩ := others
      rw [List.cons_append, List.foldlM_cons, planEdit]
      cases replaceFirst? (literal earlier.anchor) (literal earlier.replacement)
          (files earlier.file) with
      | none => exact ⟨_, rfl⟩
      | some after =>
          apply ih others
          rw [Function.update_of_ne other.symm]
          exact absent

end Runs

end NestMonorepo
