import Ftp.Dispatch

/-!
# The forms of commands

Most commands answer at once, or after one question to the file system or one change to it. Only few
take more steps of their own. So there are fewer forms of commands than commands, and what holds of
all of them is shown form by form; `Command.form` is the only place that goes through one command
after the other.

* `Change`: what a command may make of its session;
* `Says`: what it may say;
* `Succeeds`, `Fails`: how a command comes to its end;
* `Transfers`: how a transfer begins;
* `Form`: the forms, and `Command.form`: that of each command.
-/

namespace Ftp

open Program

/-! ## What a command makes of its session -/

/-- What a step may make of a transmission. -/
inductive Transmission.Advances : Transmission → Transmission → Prop
  | same (transmission : Transmission) : Advances transmission transmission
  | remaining (file : File) (socket : Socket) (before after : Nat) :
    Advances (.retrieving file socket before) (.retrieving file socket after)
  | ended (transmission : Transmission) : Advances transmission .idle

/-- What a command with its argument may make of a session. -/
inductive Change (setting : Setting) (session : Session) (argument : Text) :
    Command → Session → Prop
  | nothing (command : Command) : Change setting session argument command session
  | user : Change setting session argument .user
      { session with authenticated := false, account := setting.accounts.find? argument }
  | login {id : AccountId} (account : session.account = some id)
    (password : setting.accounts.acceptsPassword id argument = true) :
    Change setting session argument .pass session.authenticate
  | refused (h : ∀ id, session.account = some id →
      setting.accounts.acceptsPassword id argument = false) :
    Change setting session argument .pass { session with account := none }
  | abor : Change setting session argument .abor { session with transmission := .idle }
  | type (binary : Bool) : Change setting session argument .type { session with binary }
  | port {number : UInt16} (h : Command.dataPort? argument = some number) :
    Change setting session argument .port
      { session with
        passiveListener := none, forwardedPort := none, remoteDataPort := number, passive := false }
  | pasv (listener : Socket) {forwarded : Option UInt16} {port : UInt16}
    (h : DataChannel.passivePort setting.config.passivePortBase session.slot = .ok port)
    (forward : ∀ p, forwarded = some p → p = port) :
    Change setting session argument .pasv
      { session with
        passiveListener := some listener, forwardedPort := forwarded, passive := true }
  | noPasv : Change setting session argument .pasv
      { session with passiveListener := none, forwardedPort := none }
  | cwd : Change setting session argument .cwd
      { session with workingDir := Path.virtual session.workingDir argument }
  | cdup : Change setting session argument .cdup
      { session with workingDir := Path.virtual session.workingDir ['.', '.'] }
  | retr {file : File} {socket : Socket} {size : Nat} {transmission : Transmission} {now : Int}
    (h : (Transmission.retrieving file socket size).Advances transmission) :
    Change setting session argument .retr { session with transmission, lastCommand := now }
  | stor {file : File} {socket : Socket} {transmission : Transmission} {now : Int}
    (h : (Transmission.storing file socket).Advances transmission) :
    Change setting session argument .stor { session with transmission, lastCommand := now }

/-- What is left of the session by a command that has failed, if one has been run: a wrong password
costs it the account, and a `PASV` the listener of the one before. -/
def Session.afterFailure (session : Session) : Option Command → Session
  | some .pass => { session with account := none }
  | some .pasv => { session with passiveListener := none, forwardedPort := none }
  | _ => session

/-! ## What a command is about -/

/-- The text that the paths of the command come from. -/
def Command.target (session : Session) (argument : Text) : Command → Text
  | .cdup => ['.', '.']
  | .mlst => if argument = [] then session.workingDir else argument
  | .list | .nlst | .mlsd => session.workingDir
  | _ => argument

/-- The command needs a data connection. -/
def Command.usesData : Command → Bool
  | .list | .nlst | .mlsd | .retr | .stor => true
  | _ => false

/-- A download opens a file to read it, an upload to write it, and no other command opens one. -/
def Command.transferMode? : Command → Option OpenMode
  | .retr => some .read
  | .stor => some .write
  | _ => none

/-- The answer tells that something has changed in the file system. -/
def Request.alters : (r : Request) → r.Answer → Bool
  | .openFile _ .write, .ok _ => true
  | .writeFile _ _, .ok _ | .removeFile _, .ok _ | .makeDir _, .ok _ | .removeDir _, .ok _ => true
  | _, _ => false

/-! ## What a command says -/

/-- The replies that are the same for every session, except that its time is up. -/
def phrases : List (Nat × String) :=
  [(150, "Here comes the directory listing."),
    (150, "Ok to send data."),
    (200, "NOOP ok."),
    (200, "PORT command successful. Consider using PASV."),
    (200, "Structure set to F."),
    (200, "Switching to ASCII mode."),
    (200, "Switching to Binary mode."),
    (215, "UNIX Type: L8"),
    (220, "Welcome to mini-ftpd."),
    (221, "Goodbye."),
    (226, "ABOR successful."),
    (226, "Directory send OK."),
    (226, "Transfer complete."),
    (230, "Login successful."),
    (250, "Delete operation successful."),
    (250, "Directory created."),
    (250, "Directory removed."),
    (250, "Directory successfully changed."),
    (331, "Please specify the password."),
    (425, "Cannot open data connection."),
    (425, "Cannot open passive connection."),
    (426, "Connection closed; transfer aborted."),
    (426, "Data connection error."),
    (450, "Delete operation failed."),
    (451, "Cannot create file."),
    (451, "Cannot open directory."),
    (451, "Cannot open file."),
    (451, "Error reading directory entries."),
    (451, "Error reading file."),
    (451, "Error writing file."),
    (500, "Line too long."),
    (501, "Illegal PORT command."),
    (504, "Bad STRU command."),
    (504, "Unrecognised TYPE command."),
    (530, "Login incorrect."),
    (530, "Please login with USER and PASS."),
    (550, "Could not get file modification time."),
    (550, "Could not get file size."),
    (550, "Create directory operation failed."),
    (550, "Failed to change directory."),
    (550, "Failed to open file."),
    (550, "Invalid path."),
    (550, "No such file or directory."),
    (550, "Permission denied."),
    (550, "Remove directory operation failed.")]

/-- What a command may say about its argument. -/
inductive Says (setting : Setting) (session : Session) (argument : Text) : Reply → Prop
  | phrase {code : Nat} {text : String} (h : (code, text) ∈ phrases) :
    Says setting session argument (.line code text)
  | size (size : Nat) : Says setting session argument (.line 213 (Decimal.digits size))
  | modified (time : DateTime) : Says setting session argument (.line 213 time.stamp)
  | passive (endpoint : Endpoint) :
    Says setting session argument (.line 227 (Reply.passiveAddress endpoint))
  | opening (size : Nat) :
    Says setting session argument (.line 150 (Action.openingText session argument size))
  | workingDir : Says setting session argument (.quoted 257 session.workingDir)
  | features :
    Says setting session argument
      (.block 211 "Features:" ((Command.features setting.config.extensions).map
        Action.featureText) "End")
  | facts (info : FileInfo) {shown : Text}
    (h : shown = Path.virtual session.workingDir (Command.mlst.target session argument)) :
    Says setting session argument
      (.block 250 ("Listing ".toList ++ shown) [Listing.factLine shown info] "End")

theorem code_ne_of_mem_phrases {code other : Nat} {text : String} (h : (code, text) ∈ phrases)
    (hother : other ∉ phrases.map Prod.fst) : code ≠ other := by
  rintro rfl
  exact hother (List.mem_map_of_mem h)

/-! ## How a command ends -/

section Forms

variable (setting : Setting) (session : Session) (argument : Text)

/-- The command leaves the session so, with the sockets and files that it owns. -/
structure Leaves (command : Command) (session' : Session) : Prop where
  change : Change setting session argument command session'
  passiveListener_eq : session'.passiveListener = session.passiveListener
  transmission_eq : session'.transmission = session.transmission

/-- The command has succeeded, and says so. -/
inductive Succeeds (command : Command) : Program (Status × Session) → Prop
  | intro {session' : Session} {reply : Reply} {status : Status}
    (leaves : Leaves setting session argument command session')
    (voiced : Says setting session argument reply) (code_ge : 200 ≤ reply.code)
    (code_ne : reply.code ≠ 227) (status_ne : ∀ text, status ≠ .failure text) :
    Succeeds command (session'.reply reply >>= fun _ => .done (status, session'))

/-- The command has failed, and says why. -/
inductive Fails (command : Command) : Program (Status × Session) → Prop
  | intro {code : Nat} {text : String}
    (leaves : Leaves setting session argument command (session.afterFailure command))
    (phrase : (code, text) ∈ phrases) (code_ge : 400 ≤ code) :
    Fails command ((session.afterFailure command).fail code text)

/-- The one thing that the command asks of the file system, or changes in it, at its path. -/
inductive Consults : Command → (Text → Request) → Prop
  | dele : Consults .dele .removeFile
  | mkd : Consults .mkd .makeDir
  | xmkd : Consults .xmkd .makeDir
  | rmd : Consults .rmd .removeDir
  | xrmd : Consults .xrmd .removeDir
  | size : Consults .size .stat
  | mdtm : Consults .mdtm .stat
  | mlst : Consults .mlst .stat
  | cwd : Consults .cwd .stat
  | cdup : Consults .cdup .stat

/-- What the command asks about the file at the path before it transfers it. -/
inductive Inquires (path : Text) : Command → Request → Prop
  | stat : Inquires path .retr (.stat path)
  | mayRetrieve (client : IPv4) (account : Text) :
    Inquires path .retr (.mayRetrieve client account path)

/-- What transmission the command begins with a data connection and a file. -/
inductive Carries : Command → OpenMode → (Socket → File → Transmission) → Prop
  | download (size : Nat) : Carries .retr .read fun socket file => .retrieving file socket size
  | upload : Carries .stor .write fun socket file => .storing file socket

/-- How the transfer of the file at the path begins: there may be questions about the file first,
and whatever the answers are, the command fails or goes on. -/
inductive Transfers (path : Text) (command : Command) : Program (Status × Session) → Prop
  | fails {code : Nat} {text : String} (phrase : (code, text) ∈ phrases) (code_ge : 400 ≤ code) :
    Transfers path command (session.fail code text)
  | asks {r : Request} {next : r.Answer → Program (Status × Session)}
    (inquires : Inquires path command r)
    (transfers : ∀ answer, Transfers path command (next answer)) :
    Transfers path command (request r >>= next)
  | begins {announcement : Text} {mode : OpenMode} {refusal : String}
    {transmission : Socket → File → Transmission} (carries : Carries command mode transmission)
    (voiced : Says setting session argument (.line 150 announcement))
    (refused : (451, refusal) ∈ phrases) :
    Transfers path command (DataChannel.withConnection setting session fun socket =>
      session.say 150 announcement >>= fun _ =>
        Action.transferFile setting session socket path mode refusal (transmission socket))

/-- How the command lists the working directory. -/
inductive Lists : Command → ListFormat → Prop
  | list : Lists .list .long
  | nlst : Lists .nlst .names
  | mlsd : Lists .mlsd .facts

/-- The forms of commands. -/
inductive Form : Command → Program (Status × Session) → Prop
  | succeeds {command : Command} {program : Program (Status × Session)}
    (brief : command.usesData = false)
    (succeeds : Succeeds setting session argument command program) : Form command program
  | fails {command : Command} {program : Program (Status × Session)}
    (brief : command.usesData = false) (fails : Fails setting session argument command program) :
    Form command program
  /-- What has been changed is not answered with an error. -/
  | consults {command : Command} {r : Text → Request}
    {next : (path : Text) → (r path).Answer → Program (Status × Session)}
    (consults : Consults command r)
    (ends : ∀ path answer, Succeeds setting session argument command (next path answer) ∨
      (r path).alters answer = false ∧ Fails setting session argument command (next path answer)) :
    Form command (setting.withPath session (command.target session argument) fun path =>
      request (r path) >>= next path)
  | abor : Form .abor (Action.abor session)
  | port {number : UInt16} (h : Command.dataPort? argument = some number) :
    Form .port (DataChannel.closePassive session >>= fun session =>
      { session with remoteDataPort := number, passive := false }.succeed 200
        "PORT command successful. Consider using PASV.")
  | pasv : Form .pasv (Action.pasv setting session)
  | lists {command : Command} {format : ListFormat} (lists : Lists command format) :
    Form command (Action.listing setting session format)
  | transfers {command : Command} {mode : OpenMode} {next : Text → Program (Status × Session)}
    (transferMode : command.transferMode? = some mode)
    (transfers : ∀ path, Transfers setting session argument path command (next path)) :
    Form command (setting.withPath session argument next)

end Forms

section Commands

variable {setting : Setting} {session : Session} {argument : Text} {command : Command}

theorem leaves_self : Leaves setting session argument command session :=
  ⟨.nothing command, rfl, rfl⟩

theorem succeeds_phrase {session' : Session} {code : Nat} {text : String}
    (leaves : Leaves setting session argument command session') (h : (code, text) ∈ phrases)
    (hcode : 200 ≤ code) :
    Succeeds setting session argument command (session'.succeed code text) :=
  .intro leaves (.phrase h) hcode (code_ne_of_mem_phrases h (by decide)) nofun

theorem succeeds_saying {reply : Reply} (voiced : Says setting session argument reply)
    (code_ge : 200 ≤ reply.code) (code_ne : reply.code ≠ 227) :
    Succeeds setting session argument command
      (session.reply reply >>= fun _ => .done (.success, session)) :=
  .intro leaves_self voiced code_ge code_ne nofun

theorem fails_phrase {code : Nat} {text : String}
    (hself : session.afterFailure command = session) (h : (code, text) ∈ phrases)
    (hcode : 400 ≤ code) : Fails setting session argument command (session.fail code text) := by
  have hfails : Fails setting session argument command
      ((session.afterFailure command).fail code text) :=
    .intro (hself.symm ▸ leaves_self) h hcode
  rwa [hself] at hfails

theorem ends_concludeChange {success failure : String} {code : Nat} {alters : Bool}
    (hself : session.afterFailure command = session) (hsuccess : (250, success) ∈ phrases)
    (hfailure : (code, failure) ∈ phrases) (hcode : 400 ≤ code) {outcome : Except IoError Unit}
    (halters : ∀ error, outcome = .error error → alters = false) :
    Succeeds setting session argument command
        (Action.concludeChange session outcome success code failure) ∨
      alters = false ∧ Fails setting session argument command
        (Action.concludeChange session outcome success code failure) := by
  cases outcome with
  | ok => exact .inl (succeeds_phrase leaves_self hsuccess (by decide))
  | error error => exact .inr ⟨halters error rfl, fails_phrase hself hfailure hcode⟩

theorem fails_refuseLogin (h : ∀ id, session.account = some id →
    setting.accounts.acceptsPassword id argument = false) :
    Fails setting session argument .pass (Action.refuseLogin session) :=
  .intro ⟨.refused h, rfl, rfl⟩ (by simp [phrases]) (by decide)

theorem form_pass :
    Form setting session argument .pass (Action.pass setting session argument) := by
  unfold Action.pass
  split
  · rename_i id hid
    split
    · rename_i hpassword
      exact .succeeds rfl (succeeds_phrase ⟨.login hid hpassword, rfl, rfl⟩ (by simp [phrases])
        (by decide))
    · rename_i hpassword
      refine .fails rfl (fails_refuseLogin fun other hother => ?_)
      rw [← Option.some.inj (hid.symm.trans hother)]
      simpa using hpassword
  · rename_i hid
    refine .fails rfl (fails_refuseLogin fun other hother => ?_)
    cases hid.symm.trans hother

theorem form_type : Form setting session argument .type (Action.type session argument) := by
  unfold Action.type
  split
  · exact .succeeds rfl (succeeds_phrase ⟨.type true, rfl, rfl⟩ (by simp [phrases]) (by decide))
  · exact .succeeds rfl (succeeds_phrase ⟨.type false, rfl, rfl⟩ (by simp [phrases]) (by decide))
  · exact .fails rfl (fails_phrase rfl (by simp [phrases]) (by decide))

theorem form_stru : Form setting session argument .stru (Action.stru session argument) := by
  unfold Action.stru
  split
  · exact .succeeds rfl (succeeds_phrase leaves_self (by simp [phrases]) (by decide))
  · exact .fails rfl (fails_phrase rfl (by simp [phrases]) (by decide))

theorem form_port : Form setting session argument .port (Action.port session argument) := by
  unfold Action.port
  split
  · exact .fails rfl (fails_phrase rfl (by simp [phrases]) (by decide))
  · rename_i number hnumber
    exact .port hnumber

theorem form_size :
    Form setting session argument .size (Action.size setting session argument) := by
  refine .consults .size fun path info => ?_
  cases info with
  | ok info =>
    exact .inl (succeeds_saying (.size info.size) (by simp [Reply.code]) (by simp [Reply.code]))
  | error error => exact .inr ⟨rfl, fails_phrase rfl (by simp [phrases]) (by decide)⟩

theorem form_mdtm :
    Form setting session argument .mdtm (Action.mdtm setting session argument) := by
  refine .consults .mdtm fun path info => ?_
  cases info with
  | ok info =>
    exact .inl (succeeds_saying (.modified info.modified) (by simp [Reply.code])
      (by simp [Reply.code]))
  | error error => exact .inr ⟨rfl, fails_phrase rfl (by simp [phrases]) (by decide)⟩

theorem form_mlst :
    Form setting session argument .mlst (Action.mlst setting session argument) := by
  refine .consults .mlst fun path info => ?_
  cases info with
  | ok info =>
    exact .inl (succeeds_saying (.facts info rfl) (by simp [Reply.code]) (by simp [Reply.code]))
  | error error => exact .inr ⟨rfl, fails_phrase rfl (by simp [phrases]) (by decide)⟩

theorem exists_root_of_resolve {target path : Text}
    (h : setting.resolve session target true = .ok path) :
    ∃ root, setting.root session = .ok root ∧
      Path.resolve root session.workingDir target true = path := by
  unfold Setting.resolve at h
  cases hroot : setting.root session with
  | error error => simp only [hroot, reduceCtorEq] at h
  | ok root =>
    simp only [hroot] at h
    split at h
    · cases h
    · exact ⟨root, rfl, Except.ok.inj h⟩

/-- How `CWD` ends when it knows what is at the path. -/
def Session.enter (session : Session) (target : Text) :
    Except IoError FileInfo → Program (Status × Session)
  | .ok info =>
    if info.kind = .dir then
      { session with workingDir := Path.virtual session.workingDir target }.succeed 250
        "Directory successfully changed."
    else session.fail 550 "Failed to change directory."
  | .error _ => session.fail 550 "Failed to change directory."

/-- The directory is looked up under the path that has been checked. -/
theorem cwd_eq (target : Text) :
    Action.cwd setting session target = setting.withPath session target fun path =>
      request (.stat path) >>= session.enter target := by
  unfold Action.cwd Setting.withPath
  cases hresolve : setting.resolve session target true with
  | error error => rfl
  | ok path =>
    -- The type of an answer depends on the request, so the path is replaced and not rewritten.
    obtain ⟨root, hroot, rfl⟩ := exists_root_of_resolve hresolve
    simp only [hroot, Path.changeDirectory, request, ask_bind, done_bind]
    congr 1
    funext info
    cases info with
    | error error => rfl
    | ok info => by_cases hdir : info.kind = .dir <;> simp [Session.enter, hdir]

theorem form_cwd (consults : Consults command .stat)
    (hself : session.afterFailure command = session)
    (change : Change setting session argument command
      { session with
        workingDir := Path.virtual session.workingDir (command.target session argument) }) :
    Form setting session argument command
      (Action.cwd setting session (command.target session argument)) := by
  have hfails : Fails setting session argument command
      (session.fail 550 "Failed to change directory.") :=
    fails_phrase hself (by simp [phrases]) (by decide)
  rw [cwd_eq]
  refine .consults consults fun path info => ?_
  cases info with
  | error error => exact .inr ⟨rfl, hfails⟩
  | ok info =>
    simp only [Session.enter]
    split
    · exact .inl (succeeds_phrase ⟨change, rfl, rfl⟩ (by simp [phrases]) (by decide))
    · exact .inr ⟨rfl, hfails⟩

theorem Carries.isActive {mode : OpenMode} {transmission : Socket → File → Transmission}
    (h : Carries command mode transmission) (socket : Socket) (file : File) :
    (transmission socket file).isActive = true := by
  cases h <;> rfl

theorem duringTransfer_of_transferMode {mode : OpenMode}
    (h : command.transferMode? = some mode) : command.duringTransfer = false := by
  cases command <;> first | rfl | cases h

theorem usesData_of_transferMode {mode : OpenMode} (h : command.transferMode? = some mode) :
    command.usesData = true := by
  cases command <;> first | rfl | cases h

theorem target_of_transferMode {mode : OpenMode} (h : command.transferMode? = some mode) :
    command.target session argument = argument := by
  cases command <;> first | rfl | cases h

theorem transfers_failing {path : Text} :
    Transfers setting session argument path command (session.fail 550 "Failed to open file.") :=
  .fails (by simp [phrases]) (by decide)

theorem transfers_retr :
    ∃ next, Action.retr setting session argument = setting.withPath session argument next ∧
      ∀ path, Transfers setting session argument path .retr (next path) := by
  refine ⟨_, rfl, fun path => .asks .stat fun info => ?_⟩
  cases info with
  | error error => exact transfers_failing
  | ok info =>
    simp only []
    split
    · refine .asks (.mayRetrieve _ _) fun may => ?_
      cases may with
      | false => exact transfers_failing
      | true => exact .begins (.download info.size) (.opening info.size) (by simp [phrases])
    · exact transfers_failing

theorem transfers_stor :
    ∃ next, Action.stor setting session argument = setting.withPath session argument next ∧
      ∀ path, Transfers setting session argument path .stor (next path) :=
  ⟨_, rfl, fun _ => .begins .upload (.phrase (by simp [phrases])) (by simp [phrases])⟩

variable (setting session argument) in
/-- A download and an upload begin in the same way. -/
theorem Command.transfers {mode : OpenMode} (hmode : command.transferMode? = some mode) :
    ∃ next, command.run setting session argument = setting.withPath session argument next ∧
      ∀ path, Transfers setting session argument path command (next path) := by
  cases command with
  | retr => exact transfers_retr
  | stor => exact transfers_stor
  | _ => cases hmode

theorem form_of_transferMode {mode : OpenMode} (hmode : command.transferMode? = some mode) :
    Form setting session argument command (command.run setting session argument) := by
  obtain ⟨next, hrun, htransfers⟩ := Command.transfers setting session argument hmode
  exact hrun ▸ .transfers hmode htransfers

/-- Every command has one of the forms. -/
theorem Command.form (setting : Setting) (session : Session) (argument : Text)
    (command : Command) :
    Form setting session argument command (command.run setting session argument) := by
  cases command with
  | user =>
    exact .succeeds rfl (succeeds_phrase ⟨.user, rfl, rfl⟩ (by simp [phrases]) (by decide))
  | pass => exact form_pass
  | syst | noop =>
    exact .succeeds rfl (succeeds_phrase leaves_self (by simp [phrases]) (by decide))
  | quit =>
    exact .succeeds rfl (.intro leaves_self (.phrase (by simp [phrases])) (by simp [Reply.code])
      (by simp [Reply.code]) nofun)
  | abor => exact .abor
  | feat =>
    exact .succeeds rfl (succeeds_saying .features (by simp [Reply.code]) (by simp [Reply.code]))
  | pwd | xpwd =>
    exact .succeeds rfl (succeeds_saying .workingDir (by simp [Reply.code]) (by simp [Reply.code]))
  | type => exact form_type
  | stru => exact form_stru
  | port => exact form_port
  | pasv => exact .pasv
  | cwd => exact form_cwd .cwd rfl .cwd
  | cdup => exact form_cwd .cdup rfl .cdup
  | list | nlst | mlsd => exact .lists (by constructor)
  | retr | stor => exact form_of_transferMode rfl
  | dele | mkd | xmkd | rmd | xrmd =>
    exact .consults (by constructor) fun path outcome => ends_concludeChange rfl
      (by simp [phrases]) (by simp [phrases]) (by decide) fun error h => h ▸ rfl
  | size => exact form_size
  | mdtm => exact form_mdtm
  | mlst => exact form_mlst

end Commands

end Ftp
