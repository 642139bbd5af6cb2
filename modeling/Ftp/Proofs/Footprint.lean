import Ftp.Proofs.Reachable

/-!
# What a command asks of the platform

Each command asks only requests of few kinds (`Command.mayAsk`), and the paths in them are those to
which the session resolves the text that the command is about, or the name of an entry that the
platform has named itself.

* `asksOnly_step`: a step of a transfer touches the file of the transfer and no other;
* `asksOnly_run`: the requests of a command;
* `asksOnly_dispatch`: a line asks only what its command may ask, and only if that may run;
* `asksOnly_perform`: the loop itself hands out no path, and no file but that of a transfer.
-/

namespace Ftp

open Program

/-- What a program may get to know: that the names in a directory satisfy `names`. -/
def NamesIn (names : Text → Prop) : (r : Request) → r.Answer → Prop
  | .readDir _, .ok entries => ∀ name ∈ entries, names name
  | _, _ => True

theorem namesIn_true (r : Request) (answer : r.Answer) : NamesIn (fun _ => True) r answer := by
  unfold NamesIn
  split
  · exact fun _ _ => trivial
  · trivial

namespace Program

variable {α β : Type} {allows : Request → Prop} {names : Text → Prop}

/-- The program asks only requests as allowed, where the names in directories satisfy `names`. -/
def AsksOnly (names : Text → Prop) (allows : Request → Prop) (program : Program α) : Prop :=
  program.Safe (.stateless allows (NamesIn names)) () fun _ _ => True

@[simp] theorem asksOnly_done (value : α) : (Program.done value).AsksOnly names allows ↔ True :=
  Iff.rfl

@[simp] theorem asksOnly_ask (r : Request) (resume : r.Answer → Program α) :
    (Program.ask r resume).AsksOnly names allows ↔
      allows r ∧ ∀ answer, NamesIn names r answer → (resume answer).AsksOnly names allows := Iff.rfl

theorem asksOnly_request {r : Request} (h : allows r) : (request r).AsksOnly names allows :=
  ⟨h, fun _ _ => trivial⟩

theorem AsksOnly.bind {program : Program α} {next : α → Program β}
    (h : program.AsksOnly names allows) (hnext : ∀ value, (next value).AsksOnly names allows) :
    (program >>= next).AsksOnly names allows :=
  (safe_bind ..).2 (h.mono fun value _ _ => hnext value)

theorem AsksOnly.mono {allows' : Request → Prop} {program : Program α}
    (h : program.AsksOnly names allows) (hallows : ∀ r, allows r → allows' r) :
    program.AsksOnly names allows' :=
  h.of_allows (fun _ => hallows) (fun _ _ _ he => he) fun _ _ _ => rfl

/-- What a program asks suits every monitor that allows it, as long as `inv` holds of the world. -/
theorem AsksOnly.safe {World : Type} {m : Monitor World} {inv : World → Prop}
    {program : Program α} (h : program.AsksOnly (fun _ => True) allows)
    (hallows : ∀ w r, inv w → allows r → m.allows w r)
    (hnext : ∀ w r answer, inv w → inv (m.next w r answer)) {w : World} (hw : inv w) :
    program.Safe m w fun _ w => inv w := by
  induction program generalizing w with
  | done value => exact hw
  | ask r resume ih =>
    refine ⟨hallows w r hw h.1, fun answer _ => ?_⟩
    exact ih answer (h.2 answer (namesIn_true r answer)) (hnext w r answer hw)

end Program

/-! ## Kinds of requests -/

/-- The request names a file by its path, reads or writes one, makes a connection, or is about a
port that is forwarded. -/
def Request.isGuarded : Request → Bool
  | .listen _ | .accept _ _ | .connect _ _ | .openFile _ _ | .readFile _ _ | .writeFile _ _
  | .stat _ | .readDir _ | .removeFile _ | .makeDir _ | .removeDir _ | .addForward _ _
  | .removeForward _ => true
  | _ => false

/-- The path in the request. -/
def Request.path? : Request → Option Text
  | .openFile path _ | .stat path | .readDir path | .removeFile path | .makeDir path
  | .removeDir path => some path
  | _ => none

theorem Request.path?_of_not_isGuarded {r : Request} (h : r.isGuarded = false) :
    r.path? = none := by
  cases r <;> first | rfl | cases h

/-- The file that the request reads or writes. -/
def Request.access? : Request → Option (OpenMode × File)
  | .readFile file _ => some (.read, file)
  | .writeFile file _ => some (.write, file)
  | _ => none

theorem Request.access?_of_not_isGuarded {r : Request} (h : r.isGuarded = false) :
    r.access? = none := by
  cases r <;> first | rfl | cases h

/-- The file that the transmission reads or writes. -/
def Transmission.access? : Transmission → Option (OpenMode × File)
  | .idle => none
  | .retrieving file _ _ => some (.read, file)
  | .storing file _ => some (.write, file)

/-- The kinds of guarded requests that the command may ask. -/
def Command.mayAsk (command : Command) : Request → Bool
  | .listen _ => command ∈ [.pasv]
  | .accept _ _ | .connect _ _ => command ∈ [.list, .nlst, .mlsd, .retr, .stor]
  | .openFile _ .read | .readFile _ _ => command ∈ [.retr]
  | .openFile _ .write | .writeFile _ _ => command ∈ [.stor]
  | .stat _ => command ∈ [.retr, .size, .mdtm, .mlst, .cwd, .cdup, .list, .nlst, .mlsd]
  | .readDir _ => command ∈ [.list, .nlst, .mlsd]
  | .removeFile _ => command ∈ [.dele]
  | .makeDir _ => command ∈ [.mkd, .xmkd]
  | .removeDir _ => command ∈ [.rmd, .xrmd]
  | .addForward _ _ => command ∈ [.pasv]
  | .removeForward _ => command ∈ [.port, .pasv]
  | _ => true

/-- The session resolves the target to the path, or the path is that of an entry with a name as
given. -/
inductive Reaches (setting : Setting) (session : Session) (names : Text → Prop) (target : Text) :
    Text → Prop
  | target {path : Text} (h : setting.resolve session target true = .ok path) :
    Reaches setting session names target path
  | entry {name path : Text} (named : names name) (shown : Listing.isHidden name = false)
    (h : setting.resolve session name false = .ok path) :
    Reaches setting session names target path

/-- What a command with its argument may ask. -/
structure Asks (setting : Setting) (session : Session) (names : Text → Prop) (argument : Text)
    (command : Command) (r : Request) : Prop where
  kind : command.mayAsk r = true
  path : ∀ path, r.path? = some path →
    Reaches setting session names (command.target session argument) path

section Unguarded

variable {allows : Request → Prop} {names : Text → Prop} {setting : Setting} {session : Session}

theorem Asks.of_not_isGuarded {argument : Text} {command : Command} {r : Request}
    (h : r.isGuarded = false) : Asks setting session names argument command r := by
  cases r <;> first | exact ⟨rfl, fun _ hp => nomatch hp⟩ | cases h

/-! ## Parts of commands -/

variable (hfree : ∀ r, r.isGuarded = false → allows r)

include hfree

theorem asksOnly_say (code : Nat) (text : Text) :
    (session.say code text).AsksOnly names allows :=
  asksOnly_request (hfree _ rfl)

theorem asksOnly_fail (code : Nat) (text : Text) :
    (session.fail code text).AsksOnly names allows :=
  (asksOnly_say hfree code text).bind fun _ => trivial

theorem asksOnly_succeed (code : Nat) (text : Text) :
    (session.succeed code text).AsksOnly names allows :=
  (asksOnly_say hfree code text).bind fun _ => trivial

theorem asksOnly_withPath {path : Text} {next : Text → Program (Status × Session)}
    (hnext : ∀ resolved, setting.resolve session path true = .ok resolved →
      (next resolved).AsksOnly names allows) :
    (setting.withPath session path next).AsksOnly names allows := by
  unfold Setting.withPath
  split
  · rename_i resolved h
    exact hnext resolved h
  · exact asksOnly_fail hfree _ _

theorem asksOnly_closePassive (hdrop : ∀ port, allows (.removeForward port)) (session : Session) :
    (DataChannel.closePassive session).AsksOnly names allows := by
  unfold DataChannel.closePassive
  refine AsksOnly.bind ?_ fun _ => AsksOnly.bind ?_ fun _ => trivial
  · cases session.passiveListener with
    | none => trivial
    | some listener => exact asksOnly_request (hfree _ rfl)
  · cases session.forwardedPort with
    | none => trivial
    | some port => exact asksOnly_request (hdrop port)

theorem asksOnly_openPassive (hlisten : ∀ endpoint, allows (.listen endpoint))
    (hadd : ∀ inner outer, allows (.addForward inner outer))
    (hdrop : ∀ port, allows (.removeForward port)) :
    (DataChannel.openPassive setting session).AsksOnly names allows := by
  unfold DataChannel.openPassive
  refine (asksOnly_closePassive hfree hdrop session).bind fun session => ?_
  split
  · trivial
  · refine AsksOnly.bind (asksOnly_request (hlisten _)) fun bound => ?_
    cases bound with
    | error cause => trivial
    | ok listener =>
      refine AsksOnly.bind (asksOnly_request (hfree _ rfl)) fun outside? => ?_
      cases outside? with
      | some outside => exact AsksOnly.bind (asksOnly_request (hadd _ _)) fun _ => trivial
      | none =>
        refine AsksOnly.bind ⟨hfree _ rfl, fun answer _ => ?_⟩ fun _ => trivial
        cases answer <;> trivial

theorem asksOnly_establish (haccept : ∀ listener wait, allows (.accept listener wait))
    (hconnect : ∀ target wait, allows (.connect target wait)) :
    (DataChannel.establish setting session).AsksOnly names allows := by
  unfold DataChannel.establish
  split
  · split
    · refine AsksOnly.bind (asksOnly_request (haccept _ _)) fun accepted => ?_
      cases accepted with
      | error cause => trivial
      | ok client =>
        refine AsksOnly.bind (asksOnly_request (hfree _ rfl)) fun admitted => ?_
        cases admitted with
        | true => trivial
        | false => exact AsksOnly.bind (asksOnly_request (hfree _ rfl)) fun _ => trivial
    · trivial
  · split
    · trivial
    · refine AsksOnly.bind (asksOnly_request (hconnect _ _)) fun connected => ?_
      cases connected <;> trivial

theorem asksOnly_withConnection (haccept : ∀ listener wait, allows (.accept listener wait))
    (hconnect : ∀ target wait, allows (.connect target wait))
    {next : Socket → Program (Status × Session)}
    (hnext : ∀ socket, (next socket).AsksOnly names allows) :
    (DataChannel.withConnection setting session next).AsksOnly names allows := by
  refine (asksOnly_establish hfree haccept hconnect).bind fun established => ?_
  cases established with
  | ok socket => exact hnext socket
  | error error => exact asksOnly_fail hfree _ _

theorem asksOnly_release (transmission : Transmission) :
    (Transfer.release transmission).AsksOnly names allows := by
  cases transmission with
  | idle => trivial
  | retrieving file socket _ | storing file socket =>
    exact AsksOnly.bind (asksOnly_request (hfree _ rfl))
      fun _ => asksOnly_request (hfree _ rfl)

theorem asksOnly_close (session : Session) : (Transfer.close session).AsksOnly names allows :=
  (asksOnly_release hfree _).bind fun _ => trivial

theorem asksOnly_retrieveStep {file : File} (hread : ∀ limit, allows (.readFile file limit))
    (socket : Socket) (remaining : Nat) :
    (Transfer.retrieveStep setting session file socket remaining).AsksOnly names allows := by
  have hconclude : ∀ code text,
      (Transfer.concludeRetrieve session code text).AsksOnly names allows :=
    fun code text => (asksOnly_say hfree code text).bind fun _ => trivial
  unfold Transfer.retrieveStep
  split
  · exact hconclude _ _
  · refine AsksOnly.bind (asksOnly_request (hread _)) fun chunk? => ?_
    cases chunk? with
    | error error => exact hconclude _ _
    | ok chunk =>
      simp only []
      split
      · exact hconclude _ _
      · refine AsksOnly.bind (asksOnly_request (hfree _ rfl)) fun sent => ?_
        cases sent with
        | error error => exact hconclude _ _
        | ok =>
          simp only []
          split
          · exact hconclude _ _
          · trivial

theorem asksOnly_receiveUpTo (socket : Socket) (attempts space : Nat) (taken : List UInt8) :
    (Transfer.receiveUpTo socket attempts space taken).AsksOnly names allows := by
  induction attempts generalizing space taken with
  | zero => trivial
  | succ attempts ih =>
    cases space with
    | zero => trivial
    | succ space =>
      unfold Transfer.receiveUpTo
      refine AsksOnly.bind (asksOnly_request (hfree _ rfl)) fun received => ?_
      cases received with
      | ok chunk =>
        simp only []
        split
        · trivial
        · exact ih _ _
      | error error =>
        simp only []
        split
        · trivial
        · exact ih _ _
        · trivial

theorem asksOnly_storeStep {file : File} (hwrite : ∀ bytes, allows (.writeFile file bytes))
    (socket : Socket) :
    (Transfer.storeStep setting session file socket).AsksOnly names allows := by
  have hconclude : ∀ code text,
      (Transfer.concludeStore session code text).AsksOnly names allows :=
    fun code text => (asksOnly_say hfree code text).bind fun _ => trivial
  unfold Transfer.storeStep
  refine (asksOnly_receiveUpTo hfree socket _ _ _).bind fun (bytes, state) => ?_
  refine AsksOnly.bind ?_ fun written => ?_
  · unfold Transfer.writeIfAny
    split
    · trivial
    · exact asksOnly_request (hwrite _)
  · cases written with
    | error error => exact hconclude _ _
    | ok =>
      cases state with
      | alive => trivial
      | ended | broken => exact hconclude _ _

theorem asksOnly_finish (session : Session) : (Transfer.finish session).AsksOnly names allows :=
  (asksOnly_close hfree session).bind fun _ => trivial

/-- A step reads the file of a download or writes that of an upload. -/
theorem asksOnly_step
    (hread : ∀ file socket remaining, session.transmission = .retrieving file socket remaining →
      ∀ limit, allows (.readFile file limit))
    (hwrite : ∀ file socket, session.transmission = .storing file socket →
      ∀ bytes, allows (.writeFile file bytes)) :
    (Transfer.step setting session).AsksOnly names allows := by
  unfold Transfer.step
  refine AsksOnly.bind (asksOnly_request (hfree _ rfl)) fun now => ?_
  cases htransmission : session.transmission with
  | idle => trivial
  | retrieving file socket remaining =>
    refine (asksOnly_retrieveStep hfree (hread _ _ _ htransmission) _ _).bind fun left? => ?_
    cases left? with
    | some left => trivial
    | none => exact asksOnly_finish hfree _
  | storing file socket =>
    refine (asksOnly_storeStep hfree (hwrite _ _ htransmission) _).bind fun goesOn => ?_
    cases goesOn with
    | true => trivial
    | false => exact asksOnly_finish hfree _

end Unguarded

/-! ## Commands -/

section Commands

variable {setting : Setting} {session : Session} {names : Text → Prop} {argument : Text}
  {command : Command}

theorem Asks.of_pathless {r : Request} (h : command.mayAsk r = true) (hpath : r.path? = none) :
    Asks setting session names argument command r :=
  ⟨h, fun path hp => by rw [hpath] at hp; cases hp⟩

theorem Asks.of_target {r : Request} {path : Text} (h : command.mayAsk r = true)
    (hpath : r.path? = some path)
    (hresolve : setting.resolve session (command.target session argument) true = .ok path) :
    Asks setting session names argument command r :=
  ⟨h, fun path' hp => by rw [hpath] at hp; cases hp; exact .target hresolve⟩

theorem asksOnly_sendEntries (hstat : ∀ path, command.mayAsk (.stat path) = true)
    (socket : Socket) (format : ListFormat) (now : DateTime) {entries : List Text}
    (hentries : ∀ name ∈ entries, names name ∧ Listing.isHidden name = false)
    (listed failed : Nat) :
    (Listing.sendEntries setting session socket format now entries listed failed).AsksOnly names
      (Asks setting session names argument command) := by
  have hfree : ∀ r : Request, r.isGuarded = false →
    Asks setting session names argument command r := fun _ => .of_not_isGuarded
  induction entries generalizing listed failed with
  | nil =>
    unfold Listing.sendEntries
    split <;> exact asksOnly_say hfree _ _
  | cons name entries ih =>
    replace ih := ih fun name h => hentries name (List.mem_cons_of_mem _ h)
    unfold Listing.sendEntries
    refine AsksOnly.bind ?_ fun info? => ?_
    · unfold Listing.entryInfo
      split
      · trivial
      · rename_i path hpath
        obtain ⟨hname, hshown⟩ := hentries name List.mem_cons_self
        refine AsksOnly.bind (asksOnly_request (⟨hstat path, ?_⟩)) fun info => ?_
        · intro path' hp
          cases hp
          exact .entry hname hshown hpath
        · cases info <;> trivial
    · cases info? with
      | none => exact ih _ _
      | some info =>
        refine AsksOnly.bind (asksOnly_request (hfree _ rfl)) fun sent => ?_
        cases sent with
        | error error => exact asksOnly_say hfree _ _
        | ok => exact ih _ _

/-- A command that lists the working directory as `LIST` does asks what it asks. -/
theorem asksOnly_listing (hkind : ∀ r, Command.list.mayAsk r = true → command.mayAsk r = true)
    (htarget : command.target session argument = session.workingDir) (format : ListFormat) :
    (Action.listing setting session format).AsksOnly names
      (Asks setting session names argument command) := by
  have hfree : ∀ r : Request, r.isGuarded = false →
    Asks setting session names argument command r := fun _ => .of_not_isGuarded
  unfold Action.listing
  refine asksOnly_withPath hfree fun directory hdirectory => ?_
  refine asksOnly_withConnection hfree (fun _ _ => .of_pathless (hkind _ rfl) rfl)
    (fun _ _ => .of_pathless (hkind _ rfl) rfl) fun socket => ?_
  refine AsksOnly.bind ?_ fun _ => AsksOnly.bind (asksOnly_request (hfree _ rfl)) fun _ => trivial
  unfold Listing.send
  simp only [request, ask_bind, done_bind, asksOnly_ask]
  refine ⟨.of_target (hkind _ rfl) rfl (by rw [htarget]; exact hdirectory), fun read hread => ?_⟩
  cases read with
  | error error => exact asksOnly_say hfree _ _
  | ok entries =>
    refine (asksOnly_say hfree _ _).bind fun _ => ⟨hfree _ rfl, fun now _ => ?_⟩
    refine asksOnly_sendEntries (fun _ => hkind _ rfl) _ _ _ (fun name hname => ?_) _ _
    obtain ⟨hmem, hshown⟩ := List.mem_filter.1 hname
    exact ⟨hread name hmem, by simpa using hshown⟩

/-- A command that begins a transfer asks what the transfer asks in its first step. -/
theorem asksOnly_transferFile {socket : Socket} {path : Text} {mode : OpenMode} {refusal : Text}
    {transmission : File → Transmission}
    (hopen : Asks setting session names argument command (.openFile path mode))
    (hread : ∀ file file' socket remaining, transmission file = .retrieving file' socket remaining →
      ∀ limit, command.mayAsk (.readFile file' limit) = true)
    (hwrite : ∀ file file' socket, transmission file = .storing file' socket →
      ∀ bytes, command.mayAsk (.writeFile file' bytes) = true) :
    (Action.transferFile setting session socket path mode refusal transmission).AsksOnly names
      (Asks setting session names argument command) := by
  have hfree : ∀ r : Request, r.isGuarded = false →
    Asks setting session names argument command r := fun _ => .of_not_isGuarded
  unfold Action.transferFile
  refine AsksOnly.bind (asksOnly_request hopen) fun opened => ?_
  cases opened with
  | error error =>
    exact AsksOnly.bind (asksOnly_request (hfree _ rfl)) fun _ => asksOnly_fail hfree _ _
  | ok file =>
    simp only [Action.transfer, Transfer.start]
    split
    · rename_i started h
      split at h
      · cases h
      · cases h
        refine (asksOnly_step hfree (fun file' socket remaining h limit => ?_)
          fun file' socket h bytes => ?_).bind fun _ => trivial
        · exact .of_pathless (hread file file' socket remaining h limit) rfl
        · exact .of_pathless (hwrite file file' socket h bytes) rfl
    · exact (asksOnly_release hfree _).bind fun _ => asksOnly_fail hfree _ _

theorem Inquires.asks {path : Text} {r : Request} (h : Inquires path command r)
    (hresolve : setting.resolve session (command.target session argument) true = .ok path) :
    Asks setting session names argument command r := by
  cases h with
  | stat => exact .of_target rfl rfl hresolve
  | mayRetrieve => exact .of_not_isGuarded rfl

theorem Transfers.asksOnly {path : Text} {program : Program (Status × Session)}
    (h : Transfers setting session argument path command program)
    (hresolve : setting.resolve session (command.target session argument) true = .ok path) :
    program.AsksOnly names (Asks setting session names argument command) := by
  have hfree : ∀ r : Request, r.isGuarded = false →
    Asks setting session names argument command r := fun _ => .of_not_isGuarded
  induction h with
  | fails => exact asksOnly_fail hfree _ _
  | asks inquires _ ih => exact AsksOnly.bind (asksOnly_request (inquires.asks hresolve)) ih
  | begins carries =>
    refine asksOnly_withConnection hfree (fun _ _ => .of_pathless ?_ rfl)
      (fun _ _ => .of_pathless ?_ rfl) fun socket => (asksOnly_say hfree _ _).bind fun _ => ?_
    · cases carries <;> rfl
    · cases carries <;> rfl
    · cases carries with
      | download =>
        exact asksOnly_transferFile (.of_target rfl rfl hresolve) (fun _ _ _ _ _ _ => rfl)
          fun _ _ _ h => nomatch h
      | upload =>
        exact asksOnly_transferFile (.of_target rfl rfl hresolve) (fun _ _ _ _ h => nomatch h)
          fun _ _ _ _ _ => rfl

theorem Succeeds.asksOnly {allows : Request → Prop} {program : Program (Status × Session)}
    (h : Succeeds setting session argument command program)
    (hfree : ∀ r : Request, r.isGuarded = false → allows r) : program.AsksOnly names allows := by
  cases h with
  | intro => exact AsksOnly.bind (asksOnly_request (hfree _ rfl)) fun _ => trivial

theorem Fails.asksOnly {allows : Request → Prop} {program : Program (Status × Session)}
    (h : Fails setting session argument command program)
    (hfree : ∀ r : Request, r.isGuarded = false → allows r) : program.AsksOnly names allows := by
  cases h with
  | intro => exact asksOnly_fail hfree _ _

theorem Consults.asks {r : Text → Request} (h : Consults command r) {path : Text}
    (hresolve : setting.resolve session (command.target session argument) true = .ok path) :
    Asks setting session names argument command (r path) := by
  cases h <;> exact .of_target rfl rfl hresolve

theorem asksOnly_pasv : (Action.pasv setting session).AsksOnly names
    (Asks setting session names argument .pasv) := by
  have hfree : ∀ r : Request, r.isGuarded = false →
    Asks setting session names argument .pasv r := fun _ => .of_not_isGuarded
  refine (asksOnly_openPassive hfree (fun _ => .of_pathless rfl rfl)
    (fun _ _ => .of_pathless rfl rfl) fun _ => .of_pathless rfl rfl).bind ?_
  rintro ⟨opened, session'⟩
  cases opened with
  | ok endpoint => exact asksOnly_succeed hfree _ _
  | error error => exact asksOnly_fail hfree _ _

theorem Form.asksOnly {program : Program (Status × Session)}
    (h : Form setting session argument command program) :
    program.AsksOnly names (Asks setting session names argument command) := by
  have hfree : ∀ r : Request, r.isGuarded = false →
    Asks setting session names argument command r := fun _ => .of_not_isGuarded
  cases h with
  | succeeds _ succeeds => exact succeeds.asksOnly hfree
  | fails _ fails => exact fails.asksOnly hfree
  | consults consults ends =>
    refine asksOnly_withPath hfree fun path hpath => ?_
    refine AsksOnly.bind (asksOnly_request (consults.asks hpath)) fun answer => ?_
    exact (ends path answer).elim (·.asksOnly hfree) (·.2.asksOnly hfree)
  | abor => exact (asksOnly_close hfree session).bind fun _ => asksOnly_succeed hfree _ _
  | port =>
    exact (asksOnly_closePassive hfree (fun _ => .of_pathless rfl rfl) session).bind fun _ =>
      asksOnly_succeed hfree _ _
  | pasv => exact asksOnly_pasv
  | lists lists =>
    cases lists <;> exact asksOnly_listing (fun r h => by cases r <;> exact h) rfl _
  | transfers transferMode transfers =>
    refine asksOnly_withPath hfree fun path hpath => (transfers path).asksOnly ?_
    rwa [target_of_transferMode transferMode]

theorem asksOnly_run (setting : Setting) (session : Session) (names : Text → Prop)
    (argument : Text) (command : Command) :
    (command.run setting session argument).AsksOnly names
      (Asks setting session names argument command) :=
  (command.form setting session argument).asksOnly

/-- A line asks only what its command may ask, and only if that may run. -/
theorem asksOnly_dispatch (setting : Setting) (session : Session) (names : Text → Prop)
    (raw : Text) :
    (Dispatch.dispatch setting session raw).AsksOnly names fun r =>
      r.isGuarded = false ∨ ∃ command,
        Command.find? (Command.upperVerb raw) setting.config.extensions = some command ∧
        Dispatch.verdict setting session command = .run ∧
        Asks setting session names (command.argument (Command.upperVerb raw)) command r := by
  unfold Dispatch.dispatch
  cases hfind : Command.find? (Command.upperVerb raw) setting.config.extensions with
  | none =>
    simp only [hfind]
    exact (asksOnly_say (fun _ => .inl) _ _).bind fun _ =>
      AsksOnly.bind (asksOnly_request (.inl rfl)) fun _ => trivial
  | some command =>
    simp only [hfind]
    cases hverdict : Dispatch.verdict setting session command with
    | notLoggedIn | denied => exact (asksOnly_say (fun _ => .inl) _ _).bind fun _ => trivial
    | ignored => trivial
    | run =>
      refine AsksOnly.bind ?_ fun _ => AsksOnly.bind ?_ fun _ => trivial
      rotate_left
      · exact AsksOnly.bind (asksOnly_request (.inl rfl)) fun _ => trivial
      exact (asksOnly_run setting session names _ command).mono
        fun r h => .inr ⟨command, rfl, hverdict, h⟩

end Commands

/-! ## Deeds -/

theorem asksOnly_closeSlot {allows : Request → Prop} {names : Text → Prop}
    (hfree : ∀ r, r.isGuarded = false → allows r) (hdrop : ∀ port, allows (.removeForward port))
    (slot : Nat) (table : SessionTable) :
    (Server.closeSlot slot table).AsksOnly names allows := by
  refine AsksOnly.bind ?_ fun _ => trivial
  unfold SessionTable.close
  split
  · trivial
  · refine (asksOnly_close hfree _).bind fun session => ?_
    refine (asksOnly_closePassive hfree hdrop session).bind fun _ => ?_
    exact AsksOnly.bind (asksOnly_request (hfree _ rfl)) fun _ => trivial

theorem asksOnly_acceptClient {allows : Request → Prop} {names : Text → Prop}
    (hfree : ∀ r, r.isGuarded = false → allows r)
    (haccept : ∀ listener wait, allows (.accept listener wait)) (listener : Socket)
    (table : SessionTable) : (Server.acceptClient listener table).AsksOnly names allows := by
  have hask : ∀ {r : Request} (value : SessionTable), r.isGuarded = false →
      (Program.request r >>= fun _ => Program.done value).AsksOnly names allows :=
    fun _ h => AsksOnly.bind (asksOnly_request (hfree _ h)) fun _ => trivial
  unfold Server.acceptClient
  refine AsksOnly.bind (asksOnly_request (haccept _ _)) fun accepted => ?_
  cases accepted with
  | error error => trivial
  | ok client =>
    refine AsksOnly.bind (asksOnly_request (hfree _ rfl)) fun admitted => ?_
    cases admitted with
    | false => exact hask table rfl
    | true =>
      simp only [if_true, Server.welcome]
      refine AsksOnly.bind (asksOnly_request (hfree _ rfl)) fun now => ?_
      split
      · exact hask _ rfl
      · exact hask _ rfl

theorem asksOnly_receive {allows : Request → Prop} {names : Text → Prop}
    (hfree : ∀ r, r.isGuarded = false → allows r) (setting : Setting) (session : Session) :
    (Server.receive setting session).AsksOnly names allows := by
  simp only [Server.receive]
  split
  · trivial
  · refine AsksOnly.bind (asksOnly_request (hfree _ rfl)) fun received => ?_
    cases received with
    | ok chunk =>
      simp only []
      split <;> trivial
    | error error =>
      simp only []
      split <;> trivial

section Deeds

variable {allows : Request → Prop} {names : Text → Prop} {server : Server}

theorem asksOnly_onSession {slot : Nat} {next : Session → Program SessionTable}
    (hnext : ∀ session, server.sessions.get? slot = some session →
      (next session).AsksOnly names allows) :
    (server.onSession slot next).AsksOnly names allows := by
  unfold Server.onSession
  split
  · trivial
  · rename_i session hget
    exact (hnext session hget).bind fun _ => trivial

theorem asksOnly_onListener {next : Socket → Program SessionTable}
    (hnext : ∀ listener, (next listener).AsksOnly names allows) :
    (server.onListener next).AsksOnly names allows := by
  unfold Server.onListener
  split
  · trivial
  · exact (hnext _).bind fun _ => trivial

/-- A deed other than serving a line hands out no path, and touches no file but that of the
transfer that it advances. -/
theorem asksOnly_perform (deed : Deed) (hdeed : ∀ slot, deed ≠ .serve slot) :
    (server.perform deed).AsksOnly names fun r =>
      r.path? = none ∧ ∀ access, r.access? = some access → ∃ slot session, deed = .advance slot ∧
        server.sessions.get? slot = some session ∧
        session.transmission.access? = some access := by
  have hplain : ∀ r : Request, r.path? = none → r.access? = none →
      r.path? = none ∧ ∀ access, r.access? = some access → ∃ slot session, deed = .advance slot ∧
        server.sessions.get? slot = some session ∧
        session.transmission.access? = some access :=
    fun r hpath haccess => ⟨hpath, fun access h => by rw [haccess] at h; cases h⟩
  have hfree : ∀ r : Request, r.isGuarded = false → _ := fun r h =>
    hplain r (Request.path?_of_not_isGuarded h) (Request.access?_of_not_isGuarded h)
  cases deed with
  | start =>
    refine AsksOnly.bind ?_ fun _ => trivial
    unfold Server.start
    refine AsksOnly.bind (asksOnly_request (hplain _ rfl rfl)) fun bound => ?_
    cases bound with
    | error cause => trivial
    | ok listener =>
      refine AsksOnly.bind (asksOnly_request (hfree _ rfl)) fun endpoint => ?_
      cases endpoint <;> trivial
  | register account =>
    simp only [Server.perform]
    split <;> trivial
  | advance slot =>
    refine asksOnly_onSession fun session hget => ?_
    refine (asksOnly_step hfree (fun file socket remaining h limit => ⟨rfl, fun access ha => ?_⟩)
      fun file socket h bytes => ⟨rfl, fun access ha => ?_⟩).bind fun _ => trivial
    · exact ⟨slot, session, rfl, hget, by rw [h]; exact ha⟩
    · exact ⟨slot, session, rfl, hget, by rw [h]; exact ha⟩
  | poll =>
    refine asksOnly_onListener fun listener => AsksOnly.bind ?_ fun _ => trivial
    refine AsksOnly.bind (asksOnly_request (hfree _ rfl)) fun ready => ?_
    cases ready <;> trivial
  | accept =>
    exact asksOnly_onListener fun listener =>
      asksOnly_acceptClient hfree (fun _ _ => hplain _ rfl rfl) listener _
  | receive slot =>
    exact asksOnly_onSession fun session _ =>
      (asksOnly_receive hfree _ session).bind fun _ => trivial
  | serve slot => exact absurd rfl (hdeed slot)
  | close slot =>
    exact (asksOnly_closeSlot hfree (fun _ => hplain _ rfl rfl) slot _).bind fun _ => trivial
  | readClock => exact AsksOnly.bind (asksOnly_request (hfree _ rfl)) fun _ => trivial
  | expire slot =>
    exact asksOnly_onSession fun session _ =>
      (asksOnly_say hfree _ _).bind fun _ =>
        asksOnly_closeSlot hfree (fun _ => hplain _ rfl rfl) slot _
  | unlisten =>
    refine AsksOnly.bind ?_ fun _ => trivial
    cases server.listener with
    | none => trivial
    | some listener => exact asksOnly_request (hfree _ rfl)

end Deeds

end Ftp
