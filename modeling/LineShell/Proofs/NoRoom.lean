import LineShell.Output
import LineShell.Program
import LineShell.Proofs.Referent
import LineShell.Proofs.Silence
import Mathlib.Data.List.DropRight

/-!
# A standard output without room

When nothing can be written to the standard output, what the shell has to say is refused there, and
a built-in that reports the refusal does so on the same output. So the refusal becomes the end of
the program: **a line that is given to it ends with the exit code 1 exactly if the shell has
something to say to it**, and a session ends with 1 at its first prompt, before any line of it is
evaluated (`Program.run_of_noRoom`).

An output without room may take bytes all the same, as long as it holds them back. `Sink.NoRoom`
says how far this goes: a newline is never taken, and what is held back does not get through. Where
nothing is held back there is nothing to be refused, so a program can be started.

Two outputs are shown to be of this kind. The shell's own access to a full device holds nothing back
(`noRoom_standardOutput`). The same device behind a buffer for lines (`Sink.NoRoom.lineBuffered`) is
where an error may come as late as with the newline at the end of a message.
-/

namespace LineShell

variable {σ : Type}

namespace Sink

/-! ### Sinks without room -/

/-- In the worlds `P`, which writing does not leave, the sink gets rid of nothing. What it takes is
held back, without a newline in it, and does not get through when it is to be passed on. Where
nothing is held back, passing on succeeds and does nothing. -/
structure NoRoom (out : Sink σ) (P : σ → Prop) (held : σ → Bytes) : Prop where
  write : ∀ {bytes w}, bytes ≠ [] → P w →
    P (out.write bytes w).2 ∧
      ((∃ e, (out.write bytes w).1 = .error e) ∨
        ∃ n, (out.write bytes w).1 = .ok n ∧ 0x0A ∉ bytes.take n ∧
          held (out.write bytes w).2 = held w ++ bytes.take n)
  flush_of_eq_nil : ∀ {w}, P w → held w = [] → out.flush w = (.ok (), w)
  flush_of_ne_nil : ∀ {w}, P w → held w ≠ [] → ∃ e, (out.flush w).1 = .error e

section

variable {out : Sink σ} {P : σ → Prop} {held : σ → Bytes} (hout : out.NoRoom P held) {w : σ}
  (hw : P w)

include hout hw

/-- Writing is refused, or all that is written has no newline and is held back. -/
theorem NoRoom.writeFrom (taken : Nat) (bytes : Bytes) :
    P (out.writeFrom taken bytes w).2 ∧
      ((∃ e, (out.writeFrom taken bytes w).1 = .error e) ∨
        (out.writeFrom taken bytes w).1 = .ok () ∧ 0x0A ∉ bytes.drop taken ∧
          held (out.writeFrom taken bytes w).2 = held w ++ bytes.drop taken) := by
  induction bytes generalizing taken w with
  | nil => cases taken <;> exact ⟨hw, .inr ⟨rfl, by simp, by simp [Sink.writeFrom]⟩⟩
  | cons b rest ih =>
    cases taken with
    | succ taken => exact ih hw taken
    | zero =>
      obtain ⟨hstays, hwrite⟩ := hout.write (List.cons_ne_nil b rest) hw
      rcases hanswer : out.write (b :: rest) w with ⟨answer, after⟩
      rw [hanswer] at hstays hwrite
      rw [Sink.writeFrom, hanswer]
      rcases answer with e | _ | n
      · exact ⟨hstays, .inl ⟨e, rfl⟩⟩
      · exact ⟨hstays, .inl ⟨.writeZero, rfl⟩⟩
      · obtain ⟨m, hm, hfront, hheld⟩ := hwrite.resolve_left (by simp)
        obtain rfl : n + 1 = m := Except.ok.inj hm
        obtain ⟨hlast, hrest⟩ := ih hstays n
        -- what this offer took and what the later ones take make up the bytes
        have hsplit : (b :: rest).take (n + 1) ++ rest.drop n = b :: rest :=
          List.take_append_drop (n + 1) (b :: rest)
        refine ⟨hlast, hrest.imp_right ?_⟩
        rintro ⟨hok, hback, htaken⟩
        refine ⟨hok, ?_, ?_⟩
        · rw [List.drop_zero, ← hsplit, List.mem_append]
          exact not_or.2 ⟨hfront, hback⟩
        · rw [htaken, hheld, List.append_assoc, hsplit, List.drop_zero]

/-- **No line can be written.** -/
theorem NoRoom.writeLine (line : Text) :
    ∃ e after, out.writeLine line w = (.error e, after) ∧ P after := by
  obtain ⟨hafter, hwritten⟩ := hout.writeFrom hw 0 (line ++ ['\n']).utf8
  have hnewline : 0x0A ∈ (line ++ ['\n']).utf8 := by
    rw [Text.utf8_append]
    exact List.mem_append_right _ (by decide)
  obtain ⟨e, he⟩ := hwritten.resolve_right fun h ↦ h.2.1 hnewline
  exact ⟨e, _, Prod.ext he rfl, hafter⟩

/-- **No prompt gets through**: it has no newline, but it is refused at the latest when it is to be
passed on. -/
theorem NoRoom.atPrompt :
    ∃ e after, ∀ (next : Command σ) (env : Environment), env.exiting = false →
      Interpreter.atPrompt next out env w = ⟨.error (.io e), env, after⟩ := by
  obtain ⟨hafter, hwritten⟩ := hout.writeFrom hw 0 prompt.utf8
  rcases hwrite : out.writeText prompt w with ⟨answer, after⟩
  have hsame : out.writeFrom 0 prompt.utf8 w = (answer, after) := hwrite
  rw [hsame] at hafter hwritten
  rcases hwritten with ⟨e, rfl⟩ | ⟨rfl, -, hheld⟩
  · refine ⟨e, after, fun next env hrunning ↦ ?_⟩
    simp only [Interpreter.atPrompt, hrunning, hwrite, Bool.false_eq_true, if_false]
  · have hsome : held after ≠ [] := by
      rw [hheld]
      exact List.append_ne_nil_of_right_ne_nil _ (by decide)
    obtain ⟨e, he⟩ := hout.flush_of_ne_nil hafter hsome
    refine ⟨e, (out.flush after).2, fun next env hrunning ↦ ?_⟩
    have hflush : out.flush after = (.error e, (out.flush after).2) := Prod.ext he rfl
    simp only [Interpreter.atPrompt, hrunning, hwrite, Bool.false_eq_true, if_false]
    rw [hflush]

end

/-! ### A buffer for lines -/

/-- Offer what is held back to the device, behind the bytes that it has taken already, until all is
taken or an offer is refused. What has not been taken then is still held back. -/
def drain (device : Sink σ) : Nat → Bytes → σ → Except IoError Unit × σ × Bytes
  | _, [], w => (.ok (), w, [])
  | taken + 1, _ :: rest, w => device.drain taken rest w
  | 0, b :: rest, w =>
    match device.write (b :: rest) w with
    | (.error e, after) => (.error e, after, b :: rest)
    | (.ok 0, after) => (.error .writeZero, after, b :: rest)
    | (.ok (taken + 1), after) => device.drain taken rest after

/-- The bytes up to the last newline. -/
def wholeLines (bytes : Bytes) : Bytes := bytes.rdropWhile (· ≠ 0x0A)

/-- A device behind a buffer. Bytes without a newline wait in the buffer, if it can hold them; whole
lines, and what is too much for the buffer, go to the device behind all that has waited. -/
def lineBuffered (device : Sink σ) (capacity : Nat) : Sink (σ × Bytes) where
  write bytes s :=
    let lines := wholeLines bytes
    let waits := lines = [] ∧ bytes.length < capacity
    if waits ∧ s.2.length + bytes.length ≤ capacity then (.ok bytes.length, s.1, s.2 ++ bytes)
    else
      match device.drain 0 s.2 s.1 with
      | (.error e, after) => (.error e, after)
      | (.ok (), after, held) =>
        if waits then (.ok bytes.length, after, held ++ bytes)
        else
          let (answer, after) := device.write (if lines = [] then bytes else lines) after
          (answer, after, held)
  flush s :=
    match device.drain 0 s.2 s.1 with
    | (.error e, after) => (.error e, after)
    | (.ok (), after, held) =>
      let (answer, after) := device.flush after
      (answer, after, held)

theorem wholeLines_eq_nil_iff {bytes : Bytes} : wholeLines bytes = [] ↔ 0x0A ∉ bytes := by
  rw [wholeLines, List.rdropWhile_eq_nil_iff]
  constructor
  · intro h hmem
    simpa using h 0x0A hmem
  · intro h b hb
    exact decide_eq_true fun hnewline ↦ h (hnewline ▸ hb)

section

variable {device : Sink σ} {P : σ → Prop} (hdevice : device.NoRoom P fun _ ↦ []) {w : σ} (hw : P w)

include hdevice hw

/-- A sink without room that can hold nothing back takes nothing. -/
theorem NoRoom.write_of_held_nil {bytes : Bytes} (hbytes : bytes ≠ []) :
    P (device.write bytes w).2 ∧
      ((∃ e, (device.write bytes w).1 = .error e) ∨ (device.write bytes w).1 = .ok 0) := by
  obtain ⟨hafter, hwrite⟩ := hdevice.write hbytes hw
  refine ⟨hafter, hwrite.imp_right ?_⟩
  rintro ⟨n, hn, -, hnone⟩
  rw [List.nil_append, eq_comm, List.take_eq_nil_iff] at hnone
  rw [hn, hnone.resolve_right hbytes]

/-- What is in the buffer stays there. -/
theorem NoRoom.drain {held : Bytes} (hheld : held ≠ []) :
    ∃ e after, device.drain 0 held w = (.error e, after, held) ∧ P after := by
  obtain ⟨b, rest, rfl⟩ := List.exists_cons_of_ne_nil hheld
  obtain ⟨hafter, hwrite⟩ := hdevice.write_of_held_nil hw hheld
  rcases hanswer : device.write (b :: rest) w with ⟨answer, after⟩
  rw [hanswer] at hafter hwrite
  rcases hwrite with ⟨e, rfl⟩ | rfl
  · exact ⟨e, after, by simp only [Sink.drain, hanswer], hafter⟩
  · exact ⟨.writeZero, after, by simp only [Sink.drain, hanswer], hafter⟩

end

/-- A device without room **has none behind a buffer either**, and holds back what is in the
buffer. -/
theorem NoRoom.lineBuffered {device : Sink σ} {P : σ → Prop}
    (hdevice : device.NoRoom P fun _ ↦ []) (capacity : Nat) :
    (device.lineBuffered capacity).NoRoom (fun s ↦ P s.1) Prod.snd := by
  constructor
  · rintro bytes ⟨w, held⟩ hbytes hw
    have hfree : wholeLines bytes = [] → 0x0A ∉ bytes.take bytes.length := by
      rw [List.take_length]
      exact wholeLines_eq_nil_iff.1
    simp only [Sink.lineBuffered]
    split
    · next hwaits => exact ⟨hw, .inr ⟨_, rfl, hfree hwaits.1.1, by simp⟩⟩
    · -- the device is asked, and refuses what has waited, or else what is offered now
      by_cases hheld : held = []
      · subst hheld
        have hdrained : device.drain 0 [] w = (.ok (), w, []) := by simp [Sink.drain]
        simp only [hdrained]
        split
        · next hwaits => exact ⟨hw, .inr ⟨_, rfl, hfree hwaits.1, by simp⟩⟩
        · have hoffer : (if wholeLines bytes = [] then bytes else wholeLines bytes) ≠ [] := by
            split <;> assumption
          obtain ⟨hafter, hwrite⟩ := hdevice.write_of_held_nil hw hoffer
          exact ⟨hafter, hwrite.imp_right fun hzero ↦ ⟨0, hzero, by simp, by simp⟩⟩
      · obtain ⟨e, after, hdrained, hafter⟩ := hdevice.drain hw hheld
        simp only [hdrained]
        exact ⟨hafter, .inl ⟨e, rfl⟩⟩
  · rintro ⟨w, held⟩ hw (rfl : held = [])
    have hflush := hdevice.flush_of_eq_nil hw rfl
    simp only [Sink.lineBuffered, Sink.drain, hflush]
  · rintro ⟨w, held⟩ hw hheld
    obtain ⟨e, after, hdrained, -⟩ := hdevice.drain hw hheld
    exact ⟨e, by simp only [Sink.lineBuffered, hdrained]⟩

end Sink

/-- The shell's own access to a full output holds nothing back. -/
theorem noRoom_standardOutput :
    (standardOutput (σ := σ)).NoRoom (fun w ↦ w.2.full = true) fun _ ↦ [] := by
  constructor
  · rintro bytes ⟨w, shown, full⟩ - (rfl : full = true)
    exact ⟨rfl, .inl ⟨.noSpace, rfl⟩⟩
  · intro w _ _
    rfl
  · intro w _ hnone
    exact absurd rfl hnone

/-- What children print leaves a full output full. -/
@[simp] theorem Output.full_append (o : Output) (bytes : Bytes) :
    (o.append bytes).full = o.full := by
  unfold append
  split <;> rfl

/-! ### Lines -/

section

variable {host : Host σ} {out : Sink σ} {P : σ → Prop} {held : σ → Bytes}
  (hout : out.NoRoom P held) {w : σ} (hw : P w)

include hout hw

theorem Sink.NoRoom.report (line : Text) (status : Status) (env : Environment) :
    ∃ e after, Command.report line status out env w = ⟨.error (.io e), env, after⟩ ∧ P after := by
  obtain ⟨e, after, hwritten, hafter⟩ := hout.writeLine hw line
  refine ⟨e, after, ?_, hafter⟩
  rw [Command.report, hwritten]

/-- A report that says something **ends with a refusal**. A refusal that is reported is refused in
its turn. -/
theorem Report.result_command_of_noRoom (r : Report) (env : Environment) (hloud : r.bytes ≠ []) :
    ∃ e, (r.command out env w).result = .error (.io e) := by
  cases r with
  | silent status => exact absurd rfl hloud
  | failure e status =>
    obtain ⟨refusal, after, hreport, -⟩ := hout.report hw e.message status env
    exact ⟨refusal, congrArg Outcome.result hreport⟩
  | output line status =>
    obtain ⟨first, after, hreport, hafter⟩ := hout.report hw line status env
    obtain ⟨second, last, hagain, -⟩ := hout.report hafter first.text 1 env
    refine ⟨second, ?_⟩
    simp only [command, Command.reportingFaults, hreport]
    exact congrArg Outcome.result hagain

variable (hspawn : ∀ request {w}, P w → P (host.spawn request w).2)

include hspawn

/-- A run that is one report ends with a status if the report is empty, and with a refusal if it is
not. -/
theorem Outcome.IsReport.result_of_noRoom {o : Outcome σ} {silent : Prop}
    (ho : o.IsReport host out w silent) :
    (silent → ∃ status, o.result = .ok status) ∧ (¬ silent → ∃ e, o.result = .error (.io e)) := by
  obtain ⟨env, w', r, hworld, hbytes, rfl⟩ := ho
  have hw' : P w' := by
    rcases hworld with rfl | ⟨request, rfl⟩
    · exact hw
    · exact hspawn request hw
  refine ⟨fun hsilent ↦ ?_, fun hloud ↦
    r.result_command_of_noRoom hout hw' env fun hnone ↦ hloud (hbytes.1 hnone)⟩
  have hnone : r.bytes = [] := hbytes.2 hsilent
  cases r with
  | silent status => exact ⟨status, rfl⟩
  | output line status => exact absurd hnone (Text.utf8_line_ne_nil line)
  | failure e status => exact absurd hnone (Text.utf8_line_ne_nil e.message)

/-- A line that is given to the program ends with a complaint unless the shell is silent on it. -/
theorem Program.evaluate_of_noRoom (hheld : held w = []) (line : Text) :
    let silent := IsSilent host (.initial (host.dir? w)) w (words line.trim)
    (silent → (evaluate host out line w).1 = ⟨0, []⟩) ∧
      (¬ silent → ∃ e : IoError, (evaluate host out line w).1 = ⟨1, e.text ++ ['\n']⟩) := by
  intro silent
  have hflush := hout.flush_of_eq_nil hw hheld
  obtain ⟨hok, herror⟩ :=
    (Interpreter.isReport_evalLine host (.initial (host.dir? w)) w hflush line).result_of_noRoom
      hout hw hspawn
  constructor
  · intro hsilent
    obtain ⟨status, hstatus⟩ := hok hsilent
    simp only [evaluate, hstatus]
  · intro hloud
    obtain ⟨e, he⟩ := herror hloud
    have hmessage : (Fault.io e).message = e.text := List.intercalate_singleton
    exact ⟨e, by simp only [evaluate, he, hmessage]⟩

omit hspawn in
/-- **The loop ends at its first prompt**, whatever the lines are and whatever would evaluate
them. -/
theorem Interpreter.loop_of_noRoom :
    ∃ e after, ∀ (sh : Interpreter σ) (lines : List (Option Text)) (env : Environment),
      env.exiting = false → sh.loop lines out env w = ⟨.error (.io e), env, after⟩ := by
  obtain ⟨e, after, hprompt⟩ := hout.atPrompt hw
  refine ⟨e, after, fun sh lines env hrunning ↦ ?_⟩
  rcases lines with _ | ⟨_ | line, rest⟩ <;> exact hprompt _ env hrunning

end

/-! ### The program -/

/-- **A program whose standard output has no room.** A line that is given to it ends with the exit
code 1 exactly if the shell would say something where it can write, and with 0 otherwise; and the
lines that the shell says nothing to are those of `IsSilent`. Without a line the program ends with 1
and a complaint. What its loop leaves is the same for all lines and with every interpreter, so **no
line of the input is evaluated**. -/
theorem Program.run_of_noRoom {host : Host σ} {out : Sink σ} {P : σ → Prop} {held : σ → Bytes}
    (hout : out.NoRoom P held) (hspawn : ∀ request {w}, P w → P (host.spawn request w).2)
    (hinput : ∀ {w}, P w → P (host.input w).2) {w : σ} (hw : P w) (hheld : held w = []) :
    (∀ line : Text,
      let env := Environment.initial (host.dir? w)
      let said := Interpreter.said host env w line
      let given := (run host out ["-c".toList, line] w).1
      (given.code = 1 ↔ said ≠ []) ∧ (given.code = 0 ↔ said = []) ∧
        (said = [] ↔ IsSilent host env w (words line.trim))) ∧
    ∃ e after,
      run host out [] w = (⟨1, "Error: ".toList ++ e.text ++ ['\n']⟩, after) ∧
        ∀ (sh : Interpreter σ) (lines : List (Option Text)) (env : Environment),
          env.exiting = false →
            sh.loop lines out env (host.input w).2 = ⟨.error (.io e), env, after⟩ := by
  constructor
  · intro line env said given
    have hsaid : said = [] ↔ IsSilent host env w (words line.trim) := Interpreter.said_eq_nil_iff
    obtain ⟨hsilent, hloud⟩ := evaluate_of_noRoom hout hw hspawn hheld line
    by_cases hnone : said = []
    · have hgiven : given = ⟨0, []⟩ := hsilent (hsaid.1 hnone)
      simp [hgiven, hnone, ← hsaid]
    · obtain ⟨e, he⟩ := hloud (mt hsaid.2 hnone)
      have hgiven : given = ⟨1, e.text ++ ['\n']⟩ := he
      simp [hgiven, hnone, ← hsaid]
  · obtain ⟨e, after, hloop⟩ := Interpreter.loop_of_noRoom hout (hinput hw)
    refine ⟨e, after, ?_, hloop⟩
    have hran := hloop (.default host) (inputLines (host.input w).1)
      (.initial (host.dir? (host.input w).2)) rfl
    show interact host out w = _
    simp only [interact, hran]
    rfl

/-- A full device behind a buffer: three lines that the shell has something to say to, three that it
has nothing to say to, one of which starts a program, and a session. -/
theorem Program.run_of_noRoom_buffered :
    let shell : Host Bytes := { catAlone with input := fun w ↦ (w, []) }
    let host := (shell.withOutput fun _ _ ↦ Text.utf8 "meow\n".toList).onFst
    let out := (standardOutput (σ := Bytes)).lineBuffered 1024
    let run (arguments : List Text) :=
      (Program.run host out arguments ((Text.utf8 "cat a\n".toList, ⟨[], true⟩), [])).1.code
    (run ["-c".toList, "echo a".toList] = 1 ∧ run ["-c".toList, "cd /tmp".toList] = 1 ∧
      run ["-c".toList, "frob".toList] = 1) ∧
    (run ["-c".toList, "cat a".toList] = 0 ∧ run ["-c".toList, "type".toList] = 0 ∧
      run ["-c".toList, " ".toList] = 0) ∧
    run [] = 1 := by
  intro shell host out run
  have hout : out.NoRoom (fun v ↦ v.1.2.full = true) Prod.snd :=
    noRoom_standardOutput.lineBuffered 1024
  have hspawn : ∀ request {v}, v.1.2.full = true → (host.spawn request v).2.1.2.full = true :=
    fun _ _ hfull ↦ (Output.full_append _ _).trans hfull
  have hinput : ∀ {v}, v.1.2.full = true → (host.input v).2.1.2.full = true := id
  obtain ⟨hlines, e, after, hsession, -⟩ := run_of_noRoom hout hspawn hinput
    (w := ((Text.utf8 "cat a\n".toList, ⟨[], true⟩), [])) rfl rfl
  refine ⟨⟨?_, ?_, ?_⟩, ⟨?_, ?_, ?_⟩, congrArg (·.1.code) hsession⟩
  · exact (hlines "echo a".toList).1.2 (by decide +kernel)
  · exact (hlines "cd /tmp".toList).1.2 (by decide +kernel)
  · exact (hlines "frob".toList).1.2 (by decide +kernel)
  · exact (hlines "cat a".toList).2.1.2 (by decide +kernel)
  · exact (hlines "type".toList).2.1.2 (by decide +kernel)
  · exact (hlines " ".toList).2.1.2 (by decide +kernel)

end LineShell
