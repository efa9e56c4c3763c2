import Mathlib
import StepScript.LanguageServer

/-!
# Runs of a language server, and what they publish

**Runs.** A server that takes part is told of documents, gets commands, and sees time pass
(`LanguageServer.Event`). `LanguageServer.after` and `LanguageServer.sent` are the server after
such events and what it has sent by then. A run begins with a server that was just initialized
(`LanguageServer.exists_ready_of_setUp`).

**Publications.** The diagnostics published for a document replace those before, so of all that was
sent only the last publication about it counts. `LanguageServer.displayed` is what a client thus
shows, and `LanguageServer.shown` what it should show: the diagnostics of an open document under the
present tables, with its version, and nothing for a document that is not open.
-/

namespace StepScript.LanguageServer

/-! ## Runs -/

/-- What happens to a server that takes part. -/
inductive Event where
  /-- A document is opened, changed or closed. -/
  | notice (n : Notice)
  | execute (command : Text) (arguments : List Json.Value)
  /-- Time passes. -/
  | wait (milliseconds : Nat)

/-- What a server sends for an event, and the server after it. -/
def step (s : LanguageServer) : Event → List ServerMessage × LanguageServer
  | .notice n => s.notice n
  | .execute command arguments => (s.call (.execute command arguments)).2
  | .wait milliseconds => s.advance milliseconds

/-- The server after events. -/
def after (s : LanguageServer) : List Event → LanguageServer
  | [] => s
  | e :: later => (s.step e).2.after later

/-- What is sent for events. -/
def sent (s : LanguageServer) : List Event → List ServerMessage
  | [] => []
  | e :: later => (s.step e).1 ++ (s.step e).2.sent later

/-- A server that was just initialized. -/
def ready (context : Context) (delay : Nat) : LanguageServer :=
  { ofContext context delay with phase := .running }

/-- Initializing a server leaves it so, with tables and a delay of its own or of the client. -/
theorem exists_ready_of_setUp {context : Context} {delay : Nat} {options : Option Json.Value}
    {result : Json.Value} (h : ((ofContext context delay).call (.setUp options)).1 = .ok result) :
    ∃ context' delay',
      ((ofContext context delay).call (.setUp options)).2 = ([], ready context' delay') := by
  change ((ofContext context delay).setUp options).1 = .ok result at h
  change ∃ context' delay', ((ofContext context delay).setUp options).2 = ([], ready context' delay')
  unfold setUp at h ⊢
  cases configured : (ofContext context delay).configure options with
  | error failure =>
    rw [configured] at h
    cases h
  | ok left =>
    unfold configure at configured
    split at configured
    · cases configured
      exact ⟨context, delay, rfl⟩
    · split at configured
      · cases configured
      · rename_i settings _
        cases read : Context.ofSettings settings with
        | error failure => simp [read, bind, Except.bind] at configured
        | ok context' =>
          simp only [read, bind, Except.bind, pure, Except.pure, Except.ok.injEq] at configured
          subst configured
          exact ⟨context', settings.diagnosticsDelay, rfl⟩

variable {s : LanguageServer} {uri : Text}

/-- The publications about a document. -/
def publicationsOf (uri : Text) (messages : List ServerMessage) : List Publication :=
  messages.filterMap fun
    | .publish p => if p.uri = uri then some p else none
    | .refreshTokens => none

/-- What was published last about a document. -/
def lastPublication? (uri : Text) (messages : List ServerMessage) : Option Publication :=
  (publicationsOf uri messages).getLast?

/-- What a client shows of a document: the last publication, and nothing before there is one. -/
def displayed (uri : Text) (messages : List ServerMessage) : Publication :=
  (lastPublication? uri messages).getD ⟨uri, none, []⟩

/-- What should be shown of a document. -/
def shown (s : LanguageServer) (uri : Text) : Publication :=
  match s.documents.find? uri with
  | some document => ⟨uri, document.version, diagnostics s.context document.text⟩
  | none => ⟨uri, none, []⟩

/-- A timer of the document will go off. -/
def Pending (s : LanguageServer) (uri : Text) : Prop := ∃ t ∈ s.timers.live, t.uri = uri

/-- Of an open document, its present problems are shown. -/
theorem shown_of_find?_eq_some {document : OpenDocument}
    (found : s.documents.find? uri = some document) :
    s.shown uri = ⟨uri, document.version, diagnostics s.context document.text⟩ := by
  rw [shown, found]

/-- Of a document that is not open, nothing is shown. -/
theorem shown_of_find?_eq_none (absent : s.documents.find? uri = none) :
    s.shown uri = ⟨uri, none, []⟩ := by
  rw [shown, absent]

/-- What should be shown depends on the tables and the document. -/
theorem shown_congr {s' : LanguageServer} (tables : s'.context = s.context)
    (same : s'.documents.find? uri = s.documents.find? uri) : s'.shown uri = s.shown uri := by
  rw [shown, shown, tables, same]

/-- The publications for a document are those with its address. -/
theorem mem_publicationsOf {messages : List ServerMessage} {p : Publication} :
    p ∈ publicationsOf uri messages ↔ .publish p ∈ messages ∧ p.uri = uri := by
  unfold publicationsOf
  rw [List.mem_filterMap]
  constructor
  · rintro ⟨message, mem, here⟩
    cases message with
    | publish q =>
      by_cases same : q.uri = uri
      · simp only [if_pos same, Option.some.injEq] at here
        exact ⟨here ▸ mem, here ▸ same⟩
      · simp [if_neg same] at here
    | refreshTokens => cases here
  · rintro ⟨mem, same⟩
    exact ⟨_, mem, if_pos same⟩

/-- The publications among messages that follow each other. -/
theorem publicationsOf_append (uri : Text) (messages more : List ServerMessage) :
    publicationsOf uri (messages ++ more) =
      publicationsOf uri messages ++ publicationsOf uri more := List.filterMap_append

/-- A single publication is for its own document. -/
theorem publicationsOf_singleton (uri : Text) (p : Publication) :
    publicationsOf uri [.publish p] = if p.uri = uri then [p] else [] := by
  by_cases same : p.uri = uri
  · simp [publicationsOf, same]
  · simp [publicationsOf, same]

/-- The last publication stands if nothing more is published about its document. -/
theorem displayed_append_of_nil {messages more : List ServerMessage}
    (silent : publicationsOf uri more = []) :
    displayed uri (messages ++ more) = displayed uri messages := by
  unfold displayed lastPublication?
  rw [publicationsOf_append, silent, List.append_nil]

/-- Of publications that are all alike the last one is as they are. -/
theorem displayed_append_of_forall {messages more : List ServerMessage} {p : Publication}
    (alike : ∀ q ∈ publicationsOf uri more, q = p) (published : publicationsOf uri more ≠ []) :
    displayed uri (messages ++ more) = p := by
  unfold displayed lastPublication?
  rw [publicationsOf_append, List.getLast?_append_of_ne_nil _ published,
    List.getLast?_eq_getLast_of_ne_nil published, Option.getD_some]
  exact alike _ (List.getLast_mem published)

end StepScript.LanguageServer
