import Ftp.Proofs.Flow

/-!
# Downloads

What is read from the file of a download is sent as it is read, a chunk in each step, until as many
bytes have been sent as the file was long when the command was served, or the file or the connection
fails.

* `DownloadStands.step`: one step;
* `Course.downloads`: a download after any number of steps;
* `downloaded_of_reachable`: every download over every history.
-/

namespace Ftp

open Program

/-- So many bytes of a file are left after these steps of a download. All that has been read has
been sent, and every step has sent something. -/
structure Relaying (conduit : Conduit) (size left : Nat) (steps : List (List Event)) : Prop where
  smooth : breaksIn steps.flatten = []
  relayed : givenTo (.socket conduit.socket) steps.flatten =
    takenFrom (.file conduit.file) steps.flatten
  remaining : left + (givenTo (.socket conduit.socket) steps.flatten).length = size
  brief : steps.length ≤ (givenTo (.socket conduit.socket) steps.flatten).length

/-- Why a download of so many bytes has come to its end after these events, and what the client is
told of it. -/
inductive DownloadEnd (conduit : Conduit) (content : List UInt8) (size : Nat) (moved : List Event) :
    (code : Nat) → Text → Prop
  | completed (smooth : breaksIn moved = [])
    (sent : givenTo (.socket conduit.socket) moved = content.take size)
    (enough : size ≤ content.length) :
    DownloadEnd conduit content size moved 226 "Transfer complete."
  /-- The file has ended early. -/
  | exhausted {limit : Nat} {chunk : Chunk limit} (asked : limit ≠ 0) (hchunk : chunk.bytes = [])
    (breaks : breaksIn moved = [⟨.readFile conduit.file limit, .ok chunk⟩])
    (sent : givenTo (.socket conduit.socket) moved = content) (short : content.length < size) :
    DownloadEnd conduit content size moved 451 "Error reading file."
  | unreadable {limit : Nat} {error : IoError}
    (breaks : breaksIn moved = [⟨.readFile conduit.file limit, .error error⟩])
    (sent : givenTo (.socket conduit.socket) moved <+: content)
    (short : (givenTo (.socket conduit.socket) moved).length < size) :
    DownloadEnd conduit content size moved 451 "Error reading file."
  /-- The last chunk does not reach the client. -/
  | broken {bytes : List UInt8} {error : IoError}
    (breaks : breaksIn moved = [⟨.send conduit.socket bytes, .error error⟩])
    (sent : givenTo (.socket conduit.socket) moved ++ bytes <+: content)
    (short : (givenTo (.socket conduit.socket) moved).length < size) :
    DownloadEnd conduit content size moved 426 "Data connection error."

/-- How a download stands after its steps. -/
inductive DownloadStands (conduit : Conduit) (size : Nat) (steps : List (List Event)) :
    Transmission → Prop
  | underway {left : Nat} (pos : 0 < left) (relaying : Relaying conduit size left steps) :
    DownloadStands conduit size steps (.retrieving conduit.file conduit.socket left)
  | ended {moved : List Event} {code : Nat} {text : Text}
    (done : steps.flatten = moved ++ conduit.ending code text)
    (why : DownloadEnd conduit (takenFrom (.file conduit.file) moved) size moved code text)
    (brief : steps.length ≤ max size 1) : DownloadStands conduit size steps .idle

section Steps

variable {conduit : Conduit} {chunkSize size left : Nat} {steps : List (List Event)}
  {events : List Event} {transmission : Transmission}

theorem Relaying.nil : Relaying conduit size size [] :=
  ⟨rfl, rfl, rfl, le_rfl⟩

/-- A chunk has been read and sent. -/
theorem Relaying.relay (h : Relaying conduit size left steps) {limit : Nat} {chunk : Chunk limit}
    (hchunk : chunk.bytes ≠ []) (hle : chunk.bytes.length ≤ left) :
    Relaying conduit size (left - chunk.bytes.length)
      (steps ++ [[⟨.readFile conduit.file limit, .ok chunk⟩,
        ⟨.send conduit.socket chunk.bytes, .ok ()⟩]]) := by
  obtain ⟨smooth, relayed, remaining, brief⟩ := h
  have hpos := List.length_pos_iff.2 hchunk
  refine ⟨?_, ?_, ?_, ?_⟩
  · simp [smooth, breaksIn_cons, Event.flows, hchunk]
  · simp [relayed]
  · simp
    omega
  · simp
    omega

/-- All of the file has been sent. -/
theorem Relaying.completed (h : Relaying conduit size 0 steps) :
    DownloadEnd conduit (takenFrom (.file conduit.file) steps.flatten) size steps.flatten 226
      "Transfer complete." := by
  have hlength := h.remaining
  rw [Nat.zero_add, h.relayed] at hlength
  refine .completed h.smooth ?_ hlength.ge
  rw [List.take_of_length_le hlength.le]
  exact h.relayed

/-- The last step of a download that has not sent everything. -/
theorem Relaying.stop (h : Relaying conduit size left steps) (hleft : left ≠ 0)
    (last : List Event) {code : Nat} {text : Text}
    (why : DownloadEnd conduit (takenFrom (.file conduit.file) (steps.flatten ++ last)) size
      (steps.flatten ++ last) code text) :
    DownloadStands conduit size
      (steps ++ [last ++ [said conduit.control code text] ++ conduit.closing]) .idle := by
  have hlength := h.remaining
  have hbrief := h.brief
  refine .ended ?_ why ?_
  · simp [Conduit.ending]
  · rw [List.length_append, List.length_singleton]
    omega

/-- One more step of a download. -/
theorem DownloadStands.step (relaying : Relaying conduit size left steps)
    (hchunk : 0 < chunkSize) (hfirst : left = 0 → steps = [])
    (h : StepRun chunkSize conduit.control (.retrieving conduit.file conduit.socket left) events
      transmission) :
    DownloadStands conduit size (steps ++ [events]) transmission := by
  have hlength := relaying.remaining
  have hbrief := relaying.brief
  have hsmooth := relaying.smooth
  have hrelayed := relaying.relayed
  cases h with
  | retrieved h =>
    cases h with
    | @sent _ chunk hsome hleft =>
      exact .underway (Nat.pos_of_ne_zero hleft) (relaying.relay hsome (by omega))
  | downloaded h =>
    cases h with
    | empty hempty =>
      subst hempty
      have hdone : (steps ++ [said conduit.control 226 "Transfer complete." ::
          conduit.closing]).flatten =
            steps.flatten ++ conduit.ending 226 "Transfer complete." := by
        simp [Conduit.ending]
      exact .ended hdone relaying.completed (by simp [hfirst rfl])
    | @completed hmore chunk hsome hleft =>
      have hle := chunk.length_le
      have hcompleted := relaying.relay hsome (by omega)
      rw [hleft] at hcompleted
      refine .ended ?_ hcompleted.completed ?_
      · simp [Conduit.ending, Conduit.closing, Transmission.released]
      · rw [List.length_append, List.length_singleton]
        omega
    | unreadable hmore error =>
      have hbreaks : breaksIn (steps.flatten ++
          [⟨.readFile conduit.file (min chunkSize left), .error error⟩]) =
            [⟨.readFile conduit.file (min chunkSize left), .error error⟩] := by
        simp [hsmooth, breaksIn_cons, Event.flows]
      refine relaying.stop hmore [_] (.unreadable hbreaks ?_ ?_)
      · simp [hrelayed]
      · simp
        omega
    | @exhausted hmore chunk hnone =>
      have hbreaks : breaksIn (steps.flatten ++
          [⟨.readFile conduit.file (min chunkSize left), .ok chunk⟩]) =
            [⟨.readFile conduit.file (min chunkSize left), .ok chunk⟩] := by
        simp [hsmooth, breaksIn_cons, Event.flows, hnone]
      refine relaying.stop hmore [_] (.exhausted (by omega) hnone hbreaks ?_ ?_)
      · simp [hrelayed, hnone]
      · simp [← hrelayed, hnone]
        omega
    | @broken hmore chunk hsome error =>
      have hbreaks : breaksIn (steps.flatten ++
          [⟨.readFile conduit.file (min chunkSize left), .ok chunk⟩,
            ⟨.send conduit.socket chunk.bytes, .error error⟩]) =
            [⟨.send conduit.socket chunk.bytes, .error error⟩] := by
        simp [hsmooth, breaksIn_cons, Event.flows, hsome]
      refine relaying.stop hmore [_, _] (.broken hbreaks ?_ ?_)
      · simp [hrelayed]
      · simp
        omega

theorem RetrieveRun.offeredTo_le {left? : Option Nat}
    (h : RetrieveRun conduit.control conduit.socket conduit.file chunkSize left events left?) :
    (offeredTo (.socket conduit.socket) events).length ≤ chunkSize := by
  have hle : ∀ chunk : Chunk (min chunkSize left), chunk.bytes.length ≤ chunkSize := fun chunk =>
    chunk.length_le.trans (min_le_left _ _)
  cases h with
  | empty | unreadable | exhausted => exact Nat.zero_le _
  | @broken _ chunk | @completed _ chunk | @sent _ chunk =>
    simpa [Request.offered] using hle chunk

/-- A step of a download sends at most one chunk. -/
theorem StepRun.offeredTo_le
    (h : StepRun chunkSize conduit.control (.retrieving conduit.file conduit.socket left) events
      transmission) :
    (offeredTo (.socket conduit.socket) events).length ≤ chunkSize := by
  cases h with
  | retrieved h => exact h.offeredTo_le
  | downloaded h =>
    rw [offeredTo_append, List.length_append]
    exact h.offeredTo_le

/-- A download after any number of steps. -/
theorem Course.downloads (hchunk : 0 < chunkSize)
    (h : Course chunkSize conduit.control (.retrieving conduit.file conduit.socket size) steps
      transmission) :
    DownloadStands conduit size steps transmission ∧
      ∀ events ∈ steps, (offeredTo (.socket conduit.socket) events).length ≤ chunkSize := by
  induction h with
  | first h =>
    refine ⟨DownloadStands.step .nil hchunk (fun _ => rfl) h, fun events hmem => ?_⟩
    rw [List.mem_singleton.1 hmem]
    exact h.offeredTo_le
  | next _ step ih =>
    obtain ⟨hstands, hchunks⟩ := ih
    cases hstands with
    | ended => cases step
    | underway pos relaying =>
      refine ⟨.step relaying hchunk (fun hzero => absurd hzero pos.ne') step, fun events hmem => ?_⟩
      rcases List.mem_append.1 hmem with hmem | hmem
      · exact hchunks events hmem
      · rw [List.mem_singleton.1 hmem]
        exact step.offeredTo_le

/-- What has been read comes from what the file holds. -/
theorem DownloadEnd.supplied {content : List UInt8} {moved : List Event} {code : Nat} {text : Text}
    (h : DownloadEnd conduit (takenFrom (.file conduit.file) moved) size moved code text)
    (follows : (supplying (.file conduit.file)).Follows (some content) moved) :
    DownloadEnd conduit content size moved code text := by
  have hinitial := isPrefix_takenFrom follows
  cases h with
  | completed smooth sent enough =>
    have htaken := hinitial (by simp [smooth])
    refine .completed smooth ?_ (enough.trans htaken.length_le)
    obtain ⟨rest, rfl⟩ := htaken
    rw [sent, List.take_append_of_le_length enough]
  | @exhausted limit chunk asked hnone breaks sent short =>
    have hmem : ⟨.readFile conduit.file limit, .ok chunk⟩ ∈ breaksIn moved := by simp [breaks]
    have htaken := takenFrom_eq follows (by simp [breaks, Request.closes]) hmem asked
      (by simp [Event.taken?, hnone])
    rw [htaken] at sent short
    exact .exhausted asked hnone breaks sent short
  | unreadable breaks sent short =>
    exact .unreadable breaks (sent.trans (hinitial (by simp [breaks, Request.closes]))) short
  | broken breaks sent short =>
    exact .broken breaks (sent.trans (hinitial (by simp [breaks, Request.closes]))) short

end Steps

/-! ## Over a history -/

/-- A download goes on after these steps, with so many bytes left. -/
inductive Sending (conduit : Conduit) (content : List UInt8) (size : Nat) :
    Transmission → List (List Event) → Prop
  | left {left : Nat} {steps : List (List Event)} (pos : 0 < left)
    (relaying : Relaying conduit size left steps)
    (sent : givenTo (.socket conduit.socket) steps.flatten <+: content) :
    Sending conduit content size (.retrieving conduit.file conduit.socket left) steps

/-- What has been done for a download in its first step and in the entries that belong to it, and
what has come of it up to now. -/
structure Downloaded (chunkSize slot : Nat) (conduit : Conduit) (content : List UInt8) (size : Nat)
    (first : List Event) (server : Server) (later during : List Entry) (middle : Server) :
    Prop where
  /-- No step sends more than a chunk. -/
  chunked : ∀ events ∈ stepsOf conduit slot first during,
    (offeredTo (.socket conduit.socket) events).length ≤ chunkSize
  /-- There are no more steps than bytes, but for the one step of an empty file. -/
  brief : (stepsOf conduit slot first during).length ≤ max size 1
  /-- Between the steps nothing is done. -/
  aside : ∀ entry ∈ during, entry.deed ≠ .advance slot →
    doneFor conduit entry.events = [] ∨ GivenUp slot conduit entry middle
  turnout : Turnout slot conduit first (Sending conduit content size)
    (DownloadEnd conduit content size) server later during middle

section Histories

variable {chunkSize slot size : Nat} {conduit : Conduit} {content : List UInt8}
  {first : List Event} {steps : List (List Event)} {transmission : Transmission}
  {newer later during older : List Entry} {entry : Entry} {session : Session}
  {server middle : Server} {before after : List Event} {path : Text} {file : File}

theorem DownloadStands.brief (h : DownloadStands conduit size steps transmission) :
    steps.length ≤ max size 1 := by
  cases h with
  | underway pos relaying =>
    have hlength := relaying.remaining
    have hbrief := relaying.brief
    omega
  | ended _ _ brief => exact brief

theorem DownloadStands.sending (h : DownloadStands conduit size steps transmission)
    (hactive : transmission.isActive = true)
    (follows : (supplying (.file conduit.file)).Follows (some content) steps.flatten) :
    Sending conduit content size transmission steps := by
  cases h with
  | ended => cases hactive
  | underway pos relaying =>
    refine .left pos relaying ?_
    rw [relaying.relayed]
    exact isPrefix_takenFrom follows (by simp [relaying.smooth])

theorem DownloadStands.concluded (h : DownloadStands conduit size steps .idle)
    (follows : (supplying (.file conduit.file)).Follows (some content) steps.flatten) :
    ∃ moved code text, steps.flatten = moved ++ conduit.ending code text ∧
      DownloadEnd conduit content size moved code text := by
  cases h with
  | ended done why =>
    rw [done] at follows
    exact ⟨_, _, _, done, why.supplied (Monitor.follows_append.1 follows).1⟩

theorem Fate.downloaded (hchunk : 0 < chunkSize)
    (h : Fate chunkSize slot conduit (.retrieving conduit.file conduit.socket size) first server
      later during middle)
    (follows : (supplying (.file conduit.file)).Follows (some content)
      (first ++ eventsOf (later ++ during))) :
    Downloaded chunkSize slot conduit content size first server later during middle := by
  obtain ⟨_, hcourse⟩ := h.exists_course
  obtain ⟨hstands, hchunks⟩ := hcourse.downloads hchunk
  refine ⟨hchunks, hstands.brief, h.aside, h.turnout ?_ ?_⟩
  · intro recent past session hentries pursued hactive
    refine (pursued.course.downloads hchunk).1.sending hactive ?_
    exact pursued.follows (.inl rfl) (hentries ▸ follows)
  · intro recent past session hentries pursued hidle
    have hsupply := pursued.follows (.inl rfl) (hentries ▸ follows)
    exact (hidle ▸ (pursued.course.downloads hchunk).1).concluded hsupply

/-- A file that is opened for reading is sent to the client, as far as it was long when the command
was served: each byte once and in order, whatever else happens between the steps. -/
theorem downloaded_of_reachable (h : Reachable (newer ++ entry :: older) server)
    (fresh : Fresh (newer ++ entry :: older)) (chunked : 0 < server.config.chunkSize.toNat)
    (opened : entry.events = before ++ ⟨.openFile path .read, .ok file⟩ :: after)
    (supplied : (supplying (.file file)).Follows (some content) (after ++ eventsOf newer)) :
    ∃ slot control socket info, (⟨.stat path, .ok info⟩ : Event) ∈ before ∧
      Starts entry before after path .read slot ⟨control, socket, file⟩
        (.retrieving file socket info.size) ∧
      ∃ later during middle, newer = later ++ during ∧
        Reachable (during ++ entry :: older) middle ∧
        Downloaded server.config.chunkSize.toNat slot ⟨control, socket, file⟩ content info.size
          after server later during middle := by
  obtain ⟨slot, socket, control, begun, starts, later, during, middle, rfl, hmiddle, fate⟩ :=
    h.course fresh opened
  rw [← h.config_eq] at fate
  cases hbegins : starts.begins with
  | @download info stat =>
    exact ⟨slot, control, socket, info, stat, starts, later, during, middle, rfl, hmiddle,
      fate.downloaded chunked supplied⟩

/-- A client downloads a file of 150 bytes in three steps, and sends a line in the meantime. -/
def longDownload : List Entry × Server :=
  visit { chunkSize := 64 } { name := "ada", password := [], root := "/srv/ftp", rights := .all }
    { nodes := [("/srv/ftp/f".toList,
        { kind := .file, data := (List.range 150).map UInt8.ofNat, modified := .ofUnix 0 })] }
    "USER ada\r\nPASS x\r\nPORT 127,0,0,1,19,137\r\nRETR f\r\nHI\r\n".toList
    (List.replicate 5 (.serve 0) ++ [.advance 0, .poll, .advance 0])

theorem downloaded_of_reachable_longDownload :
    ∃ newer entry older before after path file content,
      longDownload.1 = newer ++ entry :: older ∧
      Reachable (newer ++ entry :: older) longDownload.2 ∧ Fresh (newer ++ entry :: older) ∧
      0 < longDownload.2.config.chunkSize.toNat ∧
      entry.events = before ++ ⟨.openFile path .read, .ok file⟩ :: after ∧
      (supplying (.file file)).Follows (some content) (after ++ eventsOf newer) ∧
      ∃ slot conduit size later during middle,
        Downloaded longDownload.2.config.chunkSize.toNat slot conduit content size after
          longDownload.2 later during middle := by
  have hopened : (longDownload.1[4]?.bind fun entry => entry.events[4]?.bind Event.opened?) =
      some ("/srv/ftp/f".toList, .read, ⟨1⟩) := by
    decide +kernel
  obtain ⟨entry, hentry, hhistory, hevents⟩ := exists_opened hopened
  have hreachable : Reachable (longDownload.1.take 4 ++ entry :: longDownload.1.drop 5)
      longDownload.2 := by
    rw [← hhistory]
    exact reachable_visit _ _ _ _ _
  have hfresh : Fresh (longDownload.1.take 4 ++ entry :: longDownload.1.drop 5) := by
    rw [← hhistory]
    decide +kernel
  have hchunk : 0 < longDownload.2.config.chunkSize.toNat := by decide +kernel
  have hsupplied : ∀ entry ∈ longDownload.1[4]?, (supplying (.file ⟨1⟩)).Follows
      (some ((List.range 150).map UInt8.ofNat))
      (entry.events.drop 5 ++ eventsOf (longDownload.1.take 4)) := by
    decide +kernel
  obtain ⟨slot, control, socket, info, -, -, later, during, middle, -, -, h⟩ :=
    downloaded_of_reachable hreachable hfresh hchunk hevents (hsupplied entry hentry)
  exact ⟨_, _, _, _, _, _, _, _, hhistory, hreachable, hfresh, hchunk, hevents,
    hsupplied entry hentry, slot, _, _, later, during, middle, h⟩

end Histories

end Ftp
