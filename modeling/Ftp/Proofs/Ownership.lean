import Mathlib.Algebra.Order.Group.Multiset
import Mathlib.Data.Multiset.UnionInter
import Mathlib.Tactic.Abel
import Ftp.Proofs.Reachable

/-!
# Ownership of handles

The monitor `ownership` knows the handles that have been obtained and not yet closed, and lets a
program use and close none but these. It expects that what the platform hands out is not open
already. What a session owns stands beside the rest (`Program.Keeps`), so that what is shown of a
session on its own holds of it in a table.

* `Program.Safe.nodup`: no handle is open twice;
* `keeps_step`: a step of a transfer leaves the session with what it owns, and nothing else open;
* `keeps_openPassive`, `safe_establish`: data connections;
* `keeps_run`, `keeps_processInput`: so does a command, and so does a line.
-/

namespace Ftp

open Program

inductive Handle where
  | socket (socket : Socket)
  | file (file : File)
  deriving DecidableEq, Repr

/-! ## The ledger -/

/-- The handles that the request works on. -/
def Request.uses : Request → List Handle
  | .accept socket _ | .localAddress socket | .send socket _ | .reply socket _
  | .receive socket _ | .closeSocket socket => [.socket socket]
  | .poll sockets _ => sockets.map .socket
  | .readFile file _ | .writeFile file _ | .closeFile file => [.file file]
  | _ => []

/-- The handles that the answer hands out. -/
def Request.gives : (r : Request) → r.Answer → Multiset Handle
  | .listen _, .ok socket => {.socket socket}
  | .accept _ _, .ok (socket, _) => {.socket socket}
  | .connect _ _, .ok socket => {.socket socket}
  | .openFile _ _, .ok file => {.file file}
  | _, _ => 0

/-- The handles that the request closes. -/
def Request.closes : Request → Multiset Handle
  | .closeSocket socket => {.socket socket}
  | .closeFile file => {.file file}
  | _ => 0

/-- Knows what is open, lets only that be used, and expects that only what is not open is handed
out. -/
def ownership : Monitor (Multiset Handle) where
  allows opened r := ∀ handle ∈ r.uses, handle ∈ opened
  expects opened r answer := ∀ handle ∈ r.gives answer, handle ∉ opened
  next opened r answer := opened - r.closes + r.gives answer

def Transmission.handles : Transmission → Multiset Handle
  | .idle => 0
  | .retrieving file socket _ | .storing file socket => {.socket socket} + {.file file}

def listenerHandles : Option Socket → Multiset Handle
  | none => 0
  | some listener => {.socket listener}

/-- What a session owns. -/
def Session.handles (session : Session) : Multiset Handle :=
  {.socket session.control} + listenerHandles session.passiveListener +
    session.transmission.handles

/-- No handle gets open twice. -/
theorem nodup_next {opened : Multiset Handle} (hopened : opened.Nodup) {r : Request}
    {answer : r.Answer} (he : ownership.expects opened r answer) :
    (ownership.next opened r answer).Nodup := by
  have hless : (opened - r.closes).Nodup :=
    Multiset.nodup_of_le (Multiset.sub_le_self _ _) hopened
  have hgives : (r.gives answer).Nodup := by
    unfold Request.gives
    split <;> simp
  refine Multiset.nodup_add.2 ⟨hless, hgives, ?_⟩
  rw [Multiset.disjoint_right]
  exact fun hgiven hopen => he _ hgiven (Multiset.mem_of_le (Multiset.sub_le_self _ _) hopen)

/-- No handle is open twice. -/
theorem Program.Safe.nodup {α : Type} {program : Program α} {opened : Multiset Handle}
    {post : α → Multiset Handle → Prop} (h : program.Safe ownership opened post)
    (hopened : opened.Nodup) :
    program.Safe ownership opened fun value opened => post value opened ∧ opened.Nodup := by
  induction program generalizing opened with
  | done value => exact ⟨h, hopened⟩
  | ask r resume ih =>
    exact ⟨h.1, fun answer he => ih answer (h.2 answer he) (nodup_next hopened he)⟩

section Ledger

variable {α β : Type} {opened rest : Multiset Handle}

/-- The program works on what is open, and opens and closes nothing. -/
def Program.Steady (program : Program α) (opened : Multiset Handle) : Prop :=
  program.Safe ownership opened fun _ opened' => opened' = opened

theorem Program.Steady.bind {program : Program α} {next : α → Program β}
    (h : program.Steady opened) (hnext : ∀ value, (next value).Steady opened) :
    (program >>= next).Steady opened :=
  (safe_bind ..).2 (Safe.mono h fun value _ heq => heq ▸ hnext value)

theorem Program.Steady.safe_bind {program : Program α} {next : α → Program β}
    {post : β → Multiset Handle → Prop} (h : program.Steady opened)
    (hnext : ∀ value, (next value).Safe ownership opened post) :
    (program >>= next).Safe ownership opened post :=
  (Program.safe_bind ..).2 (Safe.mono h fun value _ heq => heq ▸ hnext value)

theorem first_mem {handle : Handle} : handle ∈ ({handle} : Multiset Handle) + rest :=
  Multiset.mem_add.2 (.inl (Multiset.mem_singleton_self _))

theorem steady_done (value : α) : (Program.done value).Steady opened := rfl

/-- Most requests neither open nor close anything. -/
theorem steady_request {r : Request} (huses : ∀ handle ∈ r.uses, handle ∈ opened)
    (hcloses : r.closes = 0) (hgives : ∀ answer, r.gives answer = 0) :
    (request r).Steady opened := by
  refine ⟨huses, fun answer _ => ?_⟩
  simp [ownership, hcloses, hgives]

theorem steady_using {r : Request} {handle : Handle} (h : handle ∈ opened)
    (huses : r.uses = [handle]) (hcloses : r.closes = 0) (hgives : ∀ answer, r.gives answer = 0) :
    (request r).Steady opened := by
  refine steady_request (fun used hmem => ?_) hcloses hgives
  rw [huses] at hmem
  rwa [List.mem_singleton.1 hmem]

theorem steady_plain {r : Request} (huses : r.uses = []) (hcloses : r.closes = 0)
    (hgives : ∀ answer, r.gives answer = 0) : (request r).Steady opened :=
  steady_request (fun handle hmem => by rw [huses] at hmem; cases hmem) hcloses hgives

/-- What is closed is not open any more. -/
theorem safe_closing {r : Request} {handle : Handle} {post : r.Answer → Multiset Handle → Prop}
    (huses : r.uses = [handle]) (hcloses : r.closes = {handle})
    (hgives : ∀ answer, r.gives answer = 0) (h : ∀ answer, post answer rest) :
    (request r).Safe ownership ({handle} + rest) post := by
  refine ⟨fun used hmem => ?_, fun answer _ => ?_⟩
  · rw [huses] at hmem
    rw [List.mem_singleton.1 hmem]
    exact first_mem
  · have hleft : ownership.next ({handle} + rest) r answer = rest := by
      simp [ownership, hcloses, hgives]
    rw [safe_done, hleft]
    exact h answer

theorem safe_closeSocket (socket : Socket) {post : Unit → Multiset Handle → Prop}
    (h : post () rest) :
    (request (.closeSocket socket)).Safe ownership ({.socket socket} + rest) post :=
  safe_closing rfl rfl (fun _ => rfl) fun _ => h

theorem safe_closeFile (file : File) {post : Unit → Multiset Handle → Prop} (h : post () rest) :
    (request (.closeFile file)).Safe ownership ({.file file} + rest) post :=
  safe_closing rfl rfl (fun _ => rfl) fun _ => h

/-- A request that may open something: it is there in the end. -/
theorem safe_opening {r : Request} {post : r.Answer → Multiset Handle → Prop}
    (huses : ∀ handle ∈ r.uses, handle ∈ opened) (hcloses : r.closes = 0)
    (h : ∀ answer, post answer (r.gives answer + opened)) :
    (request r).Safe ownership opened post := by
  refine ⟨huses, fun answer _ => ?_⟩
  have hnext : ownership.next opened r answer = r.gives answer + opened := by
    simp [ownership, hcloses, add_comm]
  rw [safe_done, hnext]
  exact h answer

end Ledger

/-! ## Transfers -/

section Sessions

variable {α : Type} {setting : Setting} {session : Session} {opened rest : Multiset Handle}

/-- In the end the session owns what is open, apart from the rest. -/
def Program.Keeps (program : Program (α × Session)) (session : Session)
    (rest : Multiset Handle) : Prop :=
  program.Safe ownership (session.handles + rest) fun result opened =>
    opened = result.2.handles + rest

theorem Session.control_mem (session : Session) :
    Handle.socket session.control ∈ session.handles := by
  simp [Session.handles]

theorem control_mem : Handle.socket session.control ∈ session.handles + rest :=
  Multiset.mem_add.2 (.inl session.control_mem)

theorem control_mem_add {gained : Multiset Handle} :
    Handle.socket session.control ∈ gained + (session.handles + rest) :=
  Multiset.mem_add.2 (.inr control_mem)

theorem listener_mem {listener : Socket} (h : session.passiveListener = some listener) :
    Handle.socket listener ∈ session.handles + rest := by
  simp [Session.handles, listenerHandles, h]

theorem steady_reply (h : Handle.socket session.control ∈ opened) (reply : Reply) :
    (session.reply reply).Steady opened :=
  steady_using h rfl rfl fun _ => rfl

theorem steady_say (h : Handle.socket session.control ∈ opened) (code : Nat) (text : Text) :
    (session.say code text).Steady opened :=
  steady_reply h _

theorem keeps_fail (code : Nat) (text : Text) : (session.fail code text).Keeps session rest :=
  (steady_say control_mem code text).safe_bind fun _ => rfl

theorem keeps_succeed (code : Nat) (text : Text) : (session.succeed code text).Keeps session rest :=
  (steady_say control_mem code text).safe_bind fun _ => rfl

theorem safe_release (transmission : Transmission) {post : Unit → Multiset Handle → Prop}
    (h : post () rest) :
    (Transfer.release transmission).Safe ownership (transmission.handles + rest) post := by
  cases transmission with
  | idle =>
    have hleft : Transmission.idle.handles + rest = rest := zero_add rest
    rw [hleft]
    exact h
  | retrieving file socket _ | storing file socket =>
    simp only [Transfer.release, Transmission.handles, add_assoc]
    rw [Program.safe_bind]
    exact safe_closeSocket socket (safe_closeFile file h)

theorem safe_close (session : Session) {post : Session → Multiset Handle → Prop}
    (h : post { session with transmission := .idle }
      ({ session with transmission := .idle }.handles + rest)) :
    (Transfer.close session).Safe ownership (session.handles + rest) post := by
  have hshare : session.handles + rest =
      session.transmission.handles + ({ session with transmission := .idle }.handles + rest) := by
    simp only [Session.handles, Transmission.handles]
    abel
  unfold Transfer.close
  rw [Program.safe_bind, hshare]
  exact safe_release _ h

theorem keeps_finish (session : Session) : (Transfer.finish session).Keeps session rest := by
  unfold Transfer.finish Program.Keeps
  rw [Program.safe_bind]
  exact safe_close session rfl

theorem steady_retrieveStep {file : File} {socket : Socket}
    (hcontrol : Handle.socket session.control ∈ opened) (hfile : Handle.file file ∈ opened)
    (hsocket : Handle.socket socket ∈ opened) (remaining : Nat) :
    (Transfer.retrieveStep setting session file socket remaining).Steady opened := by
  have hconclude : ∀ code text, (Transfer.concludeRetrieve session code text).Steady opened :=
    fun code text => (steady_say hcontrol code text).bind fun _ => steady_done _
  unfold Transfer.retrieveStep
  split
  · exact hconclude _ _
  · refine (steady_using hfile rfl rfl fun _ => rfl).bind fun chunk? => ?_
    cases chunk? with
    | error error => exact hconclude _ _
    | ok chunk =>
      simp only []
      split
      · exact hconclude _ _
      · refine (steady_using hsocket rfl rfl fun _ => rfl).bind fun sent => ?_
        cases sent with
        | error error => exact hconclude _ _
        | ok =>
          simp only []
          split
          · exact hconclude _ _
          · exact steady_done _

theorem steady_receiveUpTo {socket : Socket} (hsocket : Handle.socket socket ∈ opened)
    (attempts space : Nat) (taken : List UInt8) :
    (Transfer.receiveUpTo socket attempts space taken).Steady opened := by
  induction attempts generalizing space taken with
  | zero => exact steady_done _
  | succ attempts ih =>
    cases space with
    | zero => exact steady_done _
    | succ space =>
      unfold Transfer.receiveUpTo
      refine (steady_using hsocket rfl rfl fun _ => rfl).bind fun received => ?_
      cases received with
      | ok chunk =>
        simp only []
        split
        · exact steady_done _
        · exact ih _ _
      | error error =>
        simp only []
        split
        · exact steady_done _
        · exact ih _ _
        · exact steady_done _

theorem steady_storeStep {file : File} {socket : Socket}
    (hcontrol : Handle.socket session.control ∈ opened) (hfile : Handle.file file ∈ opened)
    (hsocket : Handle.socket socket ∈ opened) :
    (Transfer.storeStep setting session file socket).Steady opened := by
  have hconclude : ∀ code text, (Transfer.concludeStore session code text).Steady opened :=
    fun code text => (steady_say hcontrol code text).bind fun _ => steady_done _
  unfold Transfer.storeStep
  refine (steady_receiveUpTo hsocket _ _ _).bind fun (bytes, state) => ?_
  refine Steady.bind ?_ fun written => ?_
  · unfold Transfer.writeIfAny
    split
    · exact steady_done _
    · exact steady_using hfile rfl rfl fun _ => rfl
  · cases written with
    | error error => exact hconclude _ _
    | ok =>
      cases state with
      | alive => exact steady_done _
      | ended | broken => exact hconclude _ _

theorem keeps_step (setting : Setting) (session : Session) :
    (Transfer.step setting session).Keeps session rest := by
  simp only [Transfer.step]
  refine (steady_plain rfl rfl fun _ => rfl).safe_bind fun now => ?_
  have hshare : ∀ {transmission}, session.transmission = transmission →
      session.handles = { session with lastCommand := now, transmission }.handles :=
    fun h => by rw [← h]; rfl
  cases htransmission : session.transmission with
  | idle => exact congrArg (· + rest) (hshare htransmission)
  | retrieving file socket remaining =>
    rw [hshare htransmission]
    refine (steady_retrieveStep control_mem ?_ ?_ remaining).safe_bind fun left? => ?_
    · simp [Session.handles, Transmission.handles]
    · simp [Session.handles, Transmission.handles]
    · cases left? with
      | none => exact keeps_finish _
      | some left => rfl
  | storing file socket =>
    rw [hshare htransmission]
    refine (steady_storeStep control_mem ?_ ?_).safe_bind fun goesOn => ?_
    · simp [Session.handles, Transmission.handles]
    · simp [Session.handles, Transmission.handles]
    · cases goesOn with
      | false => exact keeps_finish _
      | true => rfl

/-! ## Data connections -/

theorem safe_closePassive (session : Session) {post : Session → Multiset Handle → Prop}
    (h : post { session with passiveListener := none, forwardedPort := none }
      ({ session with passiveListener := none, forwardedPort := none }.handles + rest)) :
    (DataChannel.closePassive session).Safe ownership (session.handles + rest) post := by
  have hshare : session.handles + rest = listenerHandles session.passiveListener +
      ({ session with passiveListener := none, forwardedPort := none }.handles + rest) := by
    simp only [Session.handles, listenerHandles]
    abel
  have hforward : ∀ opened : Multiset Handle,
      (DataChannel.dropForward session.forwardedPort).Steady opened := by
    intro opened
    cases session.forwardedPort with
    | none => exact steady_done _
    | some port => exact steady_plain rfl rfl fun _ => rfl
  unfold DataChannel.closePassive
  rw [Program.safe_bind, hshare]
  cases session.passiveListener with
  | none =>
    rw [listenerHandles, zero_add]
    exact (hforward _).safe_bind fun _ => h
  | some listener => exact safe_closeSocket listener ((hforward _).safe_bind fun _ => h)

theorem keeps_openPassive (setting : Setting) (session : Session) :
    (DataChannel.openPassive setting session).Keeps session rest := by
  unfold DataChannel.openPassive Program.Keeps
  rw [Program.safe_bind]
  refine safe_closePassive session ?_
  generalize hbare :
    ({ session with passiveListener := none, forwardedPort := none } : Session) = bare
  have hlistener : bare.passiveListener = none := by rw [← hbare]
  split
  · rfl
  · rw [Program.safe_bind]
    refine safe_opening (fun _ hmem => nomatch hmem) rfl fun bound => ?_
    cases bound with
    | error cause => exact zero_add _
    | ok listener =>
      have hshare : ∀ forwardedPort, {.socket listener} + (bare.handles + rest) =
          { bare with passiveListener := some listener, forwardedPort }.handles + rest := by
        intro forwardedPort
        simp only [Session.handles, hlistener, listenerHandles]
        abel
      refine (steady_plain rfl rfl fun _ => rfl).safe_bind fun outside? => ?_
      cases outside? with
      | some outside =>
        exact (steady_plain rfl rfl fun _ => rfl).safe_bind fun _ => hshare (some _)
      | none =>
        refine Steady.safe_bind ?_ fun own => hshare _
        refine (steady_using control_mem_add rfl rfl fun _ => rfl).bind fun answer => ?_
        cases answer <;> exact steady_done _

/-- What has been established is open in the end. -/
def connectionHandles : Except TransferError Socket → Multiset Handle
  | .ok socket => {.socket socket}
  | .error _ => 0

theorem safe_establish (setting : Setting) (session : Session) :
    (DataChannel.establish setting session).Safe ownership (session.handles + rest)
      fun established opened =>
        opened = connectionHandles established + (session.handles + rest) := by
  unfold DataChannel.establish
  split
  · split
    · rename_i listener hlistener
      unfold DataChannel.acceptFrom
      rw [Program.safe_bind]
      refine safe_opening (fun _ hmem => List.mem_singleton.1 hmem ▸ listener_mem hlistener) rfl
        fun accepted => ?_
      cases accepted with
      | error cause => rfl
      | ok client =>
        refine (steady_plain rfl rfl fun _ => rfl).safe_bind fun admitted => ?_
        cases admitted with
        | true => rfl
        | false =>
          simp only [Bool.false_eq_true, if_false]
          rw [Program.safe_bind]
          exact safe_closeSocket client.1 (zero_add _).symm
    · exact (zero_add _).symm
  · split
    · exact (zero_add _).symm
    · unfold DataChannel.connectTo
      rw [Program.safe_bind]
      refine safe_opening (fun _ hmem => nomatch hmem) rfl fun connected => ?_
      cases connected <;> rfl

theorem keeps_withConnection {next : Socket → Program (Status × Session)}
    (hnext : ∀ socket, (next socket).Safe ownership
      ({.socket socket} + (session.handles + rest))
      fun result opened => opened = result.2.handles + rest) :
    (DataChannel.withConnection setting session next).Keeps session rest := by
  unfold DataChannel.withConnection Program.Keeps
  rw [Program.safe_bind]
  refine (safe_establish setting session).mono ?_
  rintro established _ rfl
  cases established with
  | ok socket => exact hnext socket
  | error error =>
    rw [connectionHandles, zero_add]
    exact keeps_fail _ _

theorem keeps_withPath {path : Text} {next : Text → Program (Status × Session)}
    (hnext : ∀ resolved, (next resolved).Keeps session rest) :
    (setting.withPath session path next).Keeps session rest := by
  unfold Setting.withPath
  split
  · exact hnext _
  · exact keeps_fail _ _

/-! ## Commands -/

theorem safe_transfer {transmission : Transmission} :
    (Action.transfer setting session transmission).Safe ownership
      (transmission.handles + (session.handles + rest))
      fun result opened => opened = result.2.handles + rest := by
  unfold Action.transfer Transfer.start
  cases htransmission : session.transmission with
  | idle =>
    simp only [Session.isTransferring, htransmission, Transmission.isActive, Bool.false_eq_true,
      if_false]
    have hshare : transmission.handles + (session.handles + rest) =
        { session with transmission }.handles + rest := by
      simp only [Session.handles, htransmission, Transmission.handles]
      abel
    rw [hshare, Program.safe_bind]
    exact keeps_step setting { session with transmission }
  | retrieving | storing =>
    simp only [Session.isTransferring, htransmission, Transmission.isActive, if_true]
    rw [Program.safe_bind]
    exact safe_release transmission (keeps_fail _ _)

theorem safe_transferFile {socket : Socket} {path : Text} {mode : OpenMode} {refusal : Text}
    {transmission : File → Transmission}
    (hshare : ∀ file, (transmission file).handles = {.socket socket} + {.file file}) :
    (Action.transferFile setting session socket path mode refusal transmission).Safe ownership
      ({.socket socket} + (session.handles + rest))
      fun result opened => opened = result.2.handles + rest := by
  unfold Action.transferFile
  rw [Program.safe_bind]
  refine safe_opening (fun _ hmem => nomatch hmem) rfl fun opened => ?_
  cases opened with
  | error error =>
    simp only [Request.gives, zero_add]
    rw [Program.safe_bind]
    exact safe_closeSocket socket (keeps_fail _ _)
  | ok file =>
    have howned : {.file file} + ({.socket socket} + (session.handles + rest)) =
        (transmission file).handles + (session.handles + rest) := by
      rw [hshare file]
      abel
    simp only [Request.gives]
    rw [howned]
    exact safe_transfer

theorem steady_sendEntries {socket : Socket} {format : ListFormat} {now : DateTime}
    (hcontrol : Handle.socket session.control ∈ opened) (hsocket : Handle.socket socket ∈ opened)
    (entries : List Text) (listed failed : Nat) :
    (Listing.sendEntries setting session socket format now entries listed failed).Steady
      opened := by
  induction entries generalizing listed failed with
  | nil =>
    unfold Listing.sendEntries
    split <;> exact steady_say hcontrol _ _
  | cons name entries ih =>
    unfold Listing.sendEntries
    refine Steady.bind ?_ fun info? => ?_
    · unfold Listing.entryInfo
      split
      · exact steady_done _
      · refine (steady_plain rfl rfl fun _ => rfl).bind fun info => ?_
        cases info <;> exact steady_done _
    · cases info? with
      | none => exact ih _ _
      | some info =>
        refine (steady_using hsocket rfl rfl fun _ => rfl).bind fun sent => ?_
        cases sent with
        | error error => exact steady_say hcontrol _ _
        | ok => exact ih _ _

theorem keeps_listing (format : ListFormat) :
    (Action.listing setting session format).Keeps session rest := by
  refine keeps_withPath fun path => keeps_withConnection fun socket => ?_
  have hcontrol : Handle.socket session.control ∈ {.socket socket} + (session.handles + rest) :=
    control_mem_add
  have hsocket : Handle.socket socket ∈ {.socket socket} + (session.handles + rest) := first_mem
  refine Steady.safe_bind ?_ fun _ => ?_
  · unfold Listing.send
    refine (steady_plain rfl rfl fun _ => rfl).bind fun entries => ?_
    cases entries with
    | error error => exact steady_say hcontrol _ _
    | ok entries =>
      refine (steady_say hcontrol _ _).bind fun _ => ?_
      refine (steady_plain rfl rfl fun _ => rfl).bind fun now => ?_
      exact steady_sendEntries hcontrol hsocket _ _ _
  · rw [Program.safe_bind]
    exact safe_closeSocket socket rfl

/-- Whatever is asked about a path, nothing is opened or closed. -/
theorem keeps_asking {r : Request} (huses : r.uses = []) (hcloses : r.closes = 0)
    (hgives : ∀ answer, r.gives answer = 0) {next : r.Answer → Program (α × Session)}
    (hnext : ∀ answer, (next answer).Keeps session rest) :
    (request r >>= next).Keeps session rest :=
  (steady_plain huses hcloses hgives).safe_bind hnext

theorem keeps_reply (reply : Reply) (value : α) :
    (session.reply reply >>= fun _ => Program.done (value, session)).Keeps session rest :=
  (steady_reply control_mem reply).safe_bind fun _ => rfl

theorem Transfers.keeps {argument path : Text} {command : Command}
    {program : Program (Status × Session)}
    (h : Transfers setting session argument path command program) :
    program.Keeps session rest := by
  induction h with
  | fails => exact keeps_fail _ _
  | asks inquires _ ih =>
    refine keeps_asking ?_ ?_ (fun answer => ?_) ih
    · cases inquires <;> rfl
    · cases inquires <;> rfl
    · cases inquires <;> rfl
  | begins carries =>
    refine keeps_withConnection fun socket => ?_
    refine (steady_say control_mem_add _ _).safe_bind fun _ => ?_
    exact safe_transferFile fun file => by cases carries <;> rfl

theorem Leaves.handles_eq {argument : Text} {command : Command} {session' : Session}
    (h : Leaves setting session argument command session') :
    session'.handles = session.handles := by
  rw [Session.handles, Session.handles, h.change.sameClient.control, h.passiveListener_eq,
    h.transmission_eq]

theorem Succeeds.keeps {argument : Text} {command : Command}
    {program : Program (Status × Session)}
    (h : Succeeds setting session argument command program) : program.Keeps session rest := by
  cases h with
  | intro leaves =>
    rw [Program.Keeps, ← leaves.handles_eq]
    exact keeps_reply _ _

theorem Fails.keeps {argument : Text} {command : Command} {program : Program (Status × Session)}
    (h : Fails setting session argument command program) : program.Keeps session rest := by
  cases h with
  | intro leaves =>
    rw [Program.Keeps, ← leaves.handles_eq]
    exact keeps_fail _ _

theorem keeps_pasv : (Action.pasv setting session).Keeps session rest := by
  unfold Action.pasv
  rw [Program.Keeps, Program.safe_bind]
  refine (keeps_openPassive setting session).mono ?_
  rintro ⟨opened?, session'⟩ _ rfl
  cases opened? with
  | ok endpoint => exact keeps_succeed _ _
  | error error => exact keeps_fail _ _

theorem Form.keeps {argument : Text} {command : Command} {program : Program (Status × Session)}
    (h : Form setting session argument command program) : program.Keeps session rest := by
  cases h with
  | succeeds _ succeeds => exact succeeds.keeps
  | fails _ fails => exact fails.keeps
  | consults consults ends =>
    refine keeps_withPath fun path => keeps_asking ?_ ?_ (fun answer => ?_) fun answer => ?_
    · cases consults <;> rfl
    · cases consults <;> rfl
    · cases consults <;> cases answer <;> rfl
    · exact (ends path answer).elim Succeeds.keeps fun h => h.2.keeps
  | abor =>
    unfold Action.abor
    rw [Program.Keeps, Program.safe_bind]
    exact safe_close session (keeps_succeed _ _)
  | port =>
    rw [Program.Keeps, Program.safe_bind]
    exact safe_closePassive session (keeps_succeed _ _)
  | pasv => exact keeps_pasv
  | lists => exact keeps_listing _
  | transfers _ transfers => exact keeps_withPath fun path => (transfers path).keeps

theorem keeps_run (setting : Setting) (session : Session) (argument : Text) (command : Command) :
    (command.run setting session argument).Keeps session rest :=
  (command.form setting session argument).keeps

/-! ## Lines -/

theorem keeps_dispatch (setting : Setting) (session : Session) (raw : Text) :
    (Dispatch.dispatch setting session raw).Keeps session rest := by
  have htouch : ∀ (session : Session) (status : Status),
      (Dispatch.touch session >>= fun session => Program.done (status, session)).Keeps session
        rest := fun session status =>
    ((steady_plain rfl rfl fun _ => rfl).safe_bind fun now => rfl)
  unfold Dispatch.dispatch
  cases hfind : Command.find? (Command.upperVerb raw) setting.config.extensions with
  | none =>
    simp only [hfind]
    exact (steady_say control_mem _ _).safe_bind fun _ => htouch session _
  | some command =>
    simp only [hfind]
    cases Dispatch.verdict setting session command with
    | notLoggedIn | denied => exact (steady_say control_mem _ _).safe_bind fun _ => rfl
    | ignored => rfl
    | run =>
      rw [Program.Keeps, Program.safe_bind]
      refine (keeps_run setting session _ command).mono ?_
      rintro ⟨status, session'⟩ _ rfl
      exact htouch session' status

theorem keeps_processInput (setting : Setting) (session : Session) :
    (Dispatch.processInput setting session).Keeps session rest := by
  unfold Dispatch.processInput
  split
  · exact keeps_dispatch setting { session with input := _ } _
  · split
    · exact (steady_say control_mem _ _).safe_bind fun _ => rfl
    · rfl

theorem keeps_receive (setting : Setting) (session : Session) :
    (Server.receive setting session).Keeps session rest := by
  simp only [Server.receive]
  split
  · rfl
  · refine (steady_using control_mem rfl rfl fun _ => rfl).safe_bind fun received => ?_
    cases received with
    | ok chunk =>
      simp only []
      split <;> rfl
    | error error =>
      simp only []
      split <;> rfl

end Sessions

end Ftp
