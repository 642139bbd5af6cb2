import Mathlib.Data.List.TakeWhile
import Ftp.Proofs.Conduct
import Ftp.Proofs.Wire

/-!
# No line end gets into a reply

The lines of a client have no line end in them when they are read. Arguments and paths are cut from
them and put together again without making one, and whatever else stands in a reply the server
writes itself.

* `unbroken_argument`, `unbroken_virtual`: arguments and paths;
* `Says.legible`, `Server.Tells.legible`: what the server may say;
* `Reachable.unbroken_workingDir`: the working directory, whatever has happened to the session;
* `Reachable.legible`: every reply that has ever been given.
-/

namespace Ftp

open Program

/-! ## Texts from the client -/

section Texts

variable {s t : Text}

theorem infix_join_of_mem {sep : Char} {pieces : List Text} (h : t ∈ pieces) :
    t <:+: Text.join sep pieces := by
  induction pieces with
  | nil => cases h
  | cons piece pieces ih =>
    cases pieces with
    | nil =>
      rw [List.mem_singleton.1 h]
      exact List.infix_rfl
    | cons next pieces =>
      change t <:+: piece ++ sep :: Text.join sep (next :: pieces)
      rcases List.mem_cons.1 h with rfl | h
      · exact (List.prefix_append _ _).isInfix
      · exact ((ih h).trans (List.suffix_cons sep _).isInfix).trans
          (List.suffix_append _ _).isInfix

/-- A piece between separators stands in the text. -/
theorem infix_of_mem_split {sep : Char} (h : t ∈ Text.split sep s) : t <:+: s :=
  Text.join_split sep s ▸ infix_join_of_mem h

/-- The names on the stack are among the pieces. -/
theorem mem_of_mem_foldl_enter {normalize : Bool} {pieces stack : List Text}
    (h : t ∈ pieces.foldl (Path.enter normalize) stack) : t ∈ stack ∨ t ∈ pieces := by
  induction pieces generalizing stack with
  | nil => exact .inl h
  | cons piece pieces ih =>
    rcases ih h with hstack | hpieces
    · have henter : t ∈ stack ∨ t = piece := by
        unfold Path.enter at hstack
        split at hstack
        · exact .inl hstack
        split at hstack
        · exact .inl hstack
        split at hstack
        · exact .inl (List.mem_of_mem_tail hstack)
        · exact (List.mem_cons.1 hstack).symm
      rcases henter with hstack | rfl
      · exact .inl hstack
      · exact .inr List.mem_cons_self
    · exact .inr (List.mem_cons_of_mem _ hpieces)

theorem unbroken_join {sep : Char} (hsep : sep ≠ '\n') (hsep' : sep ≠ '\r') {pieces : List Text}
    (h : ∀ piece ∈ pieces, Unbroken piece) : Unbroken (Text.join sep pieces) := by
  induction pieces with
  | nil => exact unbroken_of_notMem List.not_mem_nil
  | cons piece pieces ih =>
    cases pieces with
    | nil => exact h piece List.mem_cons_self
    | cons next pieces =>
      have hrest := ih fun piece hmem => h piece (List.mem_cons_of_mem _ hmem)
      have hjoined := unbroken_cons.2 ⟨fun heq => hsep' heq.1, hrest⟩
      exact (h piece List.mem_cons_self).append hjoined (.inr fun heq => hsep (Option.some.inj heq))

/-- A slash stands between the names, so that a CR at the end of one never meets an LF. -/
theorem unbroken_virtual {workingDir path : Text} (hdir : Unbroken workingDir)
    (hpath : Unbroken path) : Unbroken (Path.virtual workingDir path) := by
  have hbase : Unbroken (Path.base workingDir path) := by
    unfold Path.base
    split
    · exact unbroken_of_notMem List.not_mem_nil
    · exact hdir
  refine unbroken_cons.2 ⟨by simp, unbroken_join (by decide) (by decide) fun name hname => ?_⟩
  rcases mem_of_mem_foldl_enter (List.mem_reverse.1 hname) with hmem | hmem
  · cases hmem
  · rcases List.mem_append.1 hmem with hmem | hmem
    · exact hbase.of_isInfix (infix_of_mem_split hmem)
    · exact hpath.of_isInfix (infix_of_mem_split hmem)

/-- Upper case makes no CR. -/
theorem eq_of_toUpper_eq_cr {c : Char} (h : c.toUpper = '\r') : c = '\r' := by
  unfold Char.toUpper at h
  split at h
  · rename_i hrange
    have hval := congrArg (fun d : Char => d.val.toNat) h
    simp only [UInt32.le_iff_toNat_le] at hrange
    simp at hval hrange
    omega
  · exact h

/-- A CR is white space, so that none stands in the part that is put in upper case. -/
theorem unbroken_upperVerb (h : Unbroken s) : Unbroken (Command.upperVerb s) := by
  refine Unbroken.append_left (h.of_isInfix (List.dropWhile_suffix _).isInfix) fun hmem => ?_
  obtain ⟨c, hc, hupper⟩ := List.mem_map.1 hmem
  obtain rfl := eq_of_toUpper_eq_cr hupper
  exact absurd (List.mem_takeWhile_imp hc) (by decide)

theorem unbroken_argument (h : Unbroken s) (command : Command) :
    Unbroken (command.argument (Command.upperVerb s)) :=
  (unbroken_upperVerb h).of_isInfix
    ((List.dropWhile_suffix _).trans (List.drop_suffix _ _)).isInfix

/-- A line is cut off at its end, and read without one. -/
theorem unbroken_nextLine {input input' : LineBuffer} {raw : Text}
    (h : input.nextLine? = some (raw, input')) : Unbroken raw := by
  obtain ⟨⟨line, rest⟩, hcut, heq⟩ := Option.map_eq_some_iff.1 h
  cases heq
  exact Utf8.unbroken_decode (LineBuffer.endFree_of_cut? hcut)

end Texts

/-! ## Texts of the server -/

section Numbers

theorem notMem_digits (n : Nat) : '\r' ∉ Decimal.digits n := fun hmem =>
  Decimal.ne_of_isDigit (Decimal.isDigit_of_mem_digits hmem) (by decide) rfl

theorem notMem_zeroPadded (width n : Nat) : '\r' ∉ Decimal.zeroPadded width n := fun hmem =>
  Decimal.ne_of_isDigit (Decimal.isDigit_of_mem_zeroPadded hmem) (by decide) rfl

theorem notMem_stamp (time : DateTime) : '\r' ∉ time.stamp := by
  have hyear : '\r' ∉ DateTime.fourDigitYear time.year := by
    unfold DateTime.fourDigitYear
    simp only []
    split
    · simp [notMem_zeroPadded]
    · split <;> simp [notMem_zeroPadded]
  simp [DateTime.stamp, hyear, notMem_zeroPadded]

theorem unbroken_passiveAddress (endpoint : Endpoint) :
    Unbroken (Reply.passiveAddress endpoint) := by
  have hjoin : ∀ numbers : List Nat, Unbroken (Text.join ',' (numbers.map Decimal.digits)) := by
    refine fun numbers => unbroken_join (by decide) (by decide) fun piece hmem => ?_
    obtain ⟨n, -, rfl⟩ := List.mem_map.1 hmem
    exact unbroken_of_notMem (notMem_digits n)
  exact ((hjoin _).append_left (by decide)).append (unbroken_of_notMem (by decide))
    (.inr (by decide))

theorem unbroken_factLine {name : Text} (h : Unbroken name) (info : FileInfo) :
    Unbroken (Listing.factLine name info) := by
  have hkind : '\r' ∉ Listing.factKind name info.kind := by
    unfold Listing.factKind
    split
    · decide
    · cases info.kind <;> decide
  refine h.append_left ?_
  simp [hkind, notMem_digits, notMem_stamp]

theorem unbroken_openingText {name : Text} (h : Unbroken name) (session : Session) (size : Nat) :
    Unbroken (Action.openingText session name size) := by
  have hback : '\r' ∉ " (".toList ++ (Decimal.digits size ++ " bytes).".toList) := by
    simp [notMem_digits]
  have hname := h.append (unbroken_of_notMem hback) (.inr (by simp))
  have hmode : '\r' ∉ (if session.binary then "BINARY".toList else "ASCII".toList) := by
    split <;> decide
  have hrest := hname.append_left (show '\r' ∉ " mode data connection for ".toList by decide)
  unfold Action.openingText
  simp only [List.append_assoc]
  exact (hrest.append_left hmode).append_left (show '\r' ∉ "Opening ".toList by decide)

end Numbers

/-! ## Replies -/

section Replies

variable {setting : Setting} {session : Session} {argument raw : Text} {reply : Reply}

theorem legible_line {code : Nat} {text : Text} (hcode : code < 1000) (htext : Unbroken text) :
    (Reply.line code text).Legible where
  code := hcode
  unbroken _ hmem := List.mem_singleton.1 hmem ▸ htext

theorem legible_quoted {code : Nat} {path : Text} (hcode : code < 1000) (hpath : Unbroken path) :
    (Reply.quoted code path).Legible where
  code := hcode
  unbroken _ hmem := List.mem_singleton.1 hmem ▸ hpath

theorem legible_block {code : Nat} {header footer : Text} {body : List Text} (hcode : code < 1000)
    (hheader : Unbroken header) (hbody : ∀ text ∈ body, Unbroken text)
    (hfooter : '\r' ∉ footer) : (Reply.block code header body footer).Legible where
  code := hcode
  unbroken text hmem := by
    rcases List.mem_cons.1 hmem with rfl | hmem
    · exact hheader
    rcases List.mem_cons.1 hmem with rfl | hmem
    · exact unbroken_of_notMem hfooter
    · exact hbody text hmem

theorem legible_phrase {code : Nat} {text : String} (h : (code, text) ∈ phrases) :
    (Reply.line code text).Legible := by
  have hall : ∀ phrase ∈ phrases, phrase.1 < 1000 ∧ '\r' ∉ phrase.2.toList := by
    decide +kernel
  exact legible_line (hall _ h).1 (unbroken_of_notMem (hall _ h).2)

/-- Whatever a command says can be read if its argument and the working directory can. -/
theorem Says.legible (hdir : Unbroken session.workingDir) (hargument : Unbroken argument)
    (h : Says setting session argument reply) : reply.Legible := by
  cases h with
  | phrase h => exact legible_phrase h
  | size size => exact legible_line (by decide) (unbroken_of_notMem (notMem_digits size))
  | modified time => exact legible_line (by decide) (unbroken_of_notMem (notMem_stamp time))
  | passive endpoint => exact legible_line (by decide) (unbroken_passiveAddress endpoint)
  | opening size => exact legible_line (by decide) (unbroken_openingText hargument session size)
  | workingDir => exact legible_quoted (by decide) hdir
  | features =>
    have hfeature : ∀ command, '\r' ∉ Action.featureText command := by
      intro command
      cases command <;> decide
    refine legible_block (by decide) (unbroken_of_notMem (by decide)) (fun text hmem => ?_)
      (by decide)
    obtain ⟨command, -, rfl⟩ := List.mem_map.1 hmem
    exact unbroken_of_notMem (hfeature command)
  | facts info hshown =>
    have htarget : Unbroken (Command.mlst.target session argument) := by
      unfold Command.target
      simp only []
      split
      · exact hdir
      · exact hargument
    have hpath := hshown ▸ unbroken_virtual hdir htarget
    refine legible_block (by decide) (hpath.append_left (by decide)) (fun text hmem => ?_)
      (by decide)
    rw [List.mem_singleton.1 hmem]
    exact unbroken_factLine hpath info

theorem Answers.legible (hdir : Unbroken session.workingDir) (hraw : Unbroken raw)
    (h : Answers setting session raw reply) : reply.Legible := by
  cases h with
  | phrase h => exact legible_phrase h
  | echo => exact legible_line (by decide) hraw
  | command _ _ voiced => exact voiced.legible hdir (unbroken_argument hraw _)

theorem Server.Tells.legible {server : Server} {deed : Deed}
    (hdirs : ∀ slot session, server.sessions.get? slot = some session →
      Unbroken session.workingDir) (h : server.Tells deed reply) : reply.Legible := by
  cases h with
  | phrase h => exact legible_phrase h
  | timeout => exact legible_line (by decide) (unbroken_of_notMem (by decide))
  | line serve get next answers =>
    have hdir := hdirs _ _ get
    refine answers.legible ?_ (unbroken_nextLine next)
    exact hdir

end Replies

/-! ## Over a history -/

section Histories

variable {history : List Entry} {server : Server}

theorem unbroken_root : Unbroken ['/'] :=
  unbroken_of_notMem (by decide)

theorem Change.unbroken {setting : Setting} {session session' : Session} {argument : Text}
    {command : Command} (h : Change setting session argument command session')
    (hargument : Unbroken argument) (hdir : Unbroken session.workingDir) :
    Unbroken session'.workingDir := by
  cases h with
  | login => exact unbroken_root
  | cwd => exact unbroken_virtual hdir hargument
  | cdup => exact unbroken_virtual hdir (unbroken_of_notMem (by decide))
  | _ => exact hdir

theorem Becomes.unbroken {setting : Setting} {session session' : Session} {deed : Deed}
    (h : Becomes setting session deed session') (hdir : Unbroken session.workingDir) :
    Unbroken session'.workingDir := by
  cases h with
  | kept | advanced | received => exact hdir
  | heard h =>
    cases h with
    | quiet => exact hdir
    | line next served =>
      cases served with
      | refused | unknown => exact hdir
      | run _ _ change => exact change.unbroken (unbroken_argument (unbroken_nextLine next) _) hdir

/-- No line end ever gets into a working directory. -/
theorem Reachable.unbroken_workingDir (h : Reachable history server) {slot : Nat}
    {session : Session} (get : server.sessions.get? slot = some session) :
    Unbroken session.workingDir :=
  h.lifetime_induction (P := fun _ session => Unbroken session.workingDir)
    (fun _ _ _ _ => unbroken_root)
    (fun _ ih _ _ _ hbecomes => hbecomes.unbroken ih) get

/-- Every reply that has ever been given can be read. -/
theorem Reachable.legible (h : Reachable history server) :
    ∀ event ∈ eventsOf history, ∀ control reply, event.request.reply? = some (control, reply) →
      reply.Legible := by
  intro event hmem control reply hreply
  obtain ⟨newer, entry, older, rfl, hevent⟩ := exists_entry_of_mem hmem
  exact (h.tells event hevent control reply hreply).legible fun slot session get =>
    h.of_append.1.unbroken_workingDir get

end Histories

end Ftp
