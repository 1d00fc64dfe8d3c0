import LineShell.Proofs.Account
import LineShell.Proofs.Refusal

/-!
# A line on a sink with a limit

A sink has a limit if it takes bytes as long as there is room, in pieces of whatever size, then
refuses a number of times with one error, or forever, and then takes everything
(`Sink.LimitedBy`). On such a sink **a write comes through up to the limit and no further**
(`Sink.LimitedBy.writeAll_of_lt`), so nothing is lost before it, doubled or out of order.

A line writes no more than the one report that it comes to, so what becomes of it is told by that
report (`Interpreter.exists_report_evalLine`). If there is room for it, the sink makes no
difference. If not, the first bytes of it come through, and then there are two ways. A failure is
not reported again. The output of a built-in is: the error is reported behind the bytes that came
through, which succeeds just if the sink has refused once and will not do so again.
-/

namespace LineShell

variable {σ ω : Type}

namespace Sink

/-! ### States of a limit -/

namespace Limited

/-- There is room for the bytes. -/
def Fits (s : Limited) (bytes : Bytes) : Prop := ∀ n, s.room = some n → bytes.length ≤ n

/-- The state after some bytes more. -/
def take (s : Limited) (bytes : Bytes) : Limited :=
  { s with taken := s.taken ++ bytes, room := s.room.map (· - bytes.length) }

@[simp] theorem take_nil (s : Limited) : s.take [] = s := by
  obtain ⟨taken, room, refusals⟩ := s
  cases room <;> simp [take]

theorem take_take (s : Limited) (a b : Bytes) : (s.take a).take b = s.take (a ++ b) := by
  obtain ⟨taken, room, refusals⟩ := s
  cases room <;> simp [take, Nat.sub_sub]

@[simp] theorem taken_refuse (s : Limited) : s.refuse.taken = s.taken := by
  unfold refuse
  split
  · rfl
  · split <;> rfl

theorem room_refuse_of_one {s : Limited} (h : s.refusals = some 1) : s.refuse.room = none := by
  simp [refuse, h]

/-- A sink that refuses more than once has as little room after it as before. -/
theorem room_refuse_of_ne {s : Limited} (hzero : s.refusals ≠ some 0) (hone : s.refusals ≠ some 1) :
    s.refuse.room = s.room := by
  unfold refuse
  split
  · rfl
  · next k hk =>
    have hmore : ¬ k ≤ 1 := by
      rw [hk, ne_eq, Option.some.injEq] at hzero hone
      omega
    rw [if_neg hmore]

end Limited

/-- The sink takes bytes as long as there is room, some of them with each offer, refuses with `full`
when there is none, and passes on what it holds back. What it has taken, its room and its refusals
are told by `state`. -/
structure LimitedBy (out : Sink ω) (full : IoError) (state : ω → Limited) : Prop where
  write_of_room : ∀ {bytes x}, bytes ≠ [] → (state x).room ≠ some 0 →
    ∃ m y, out.write bytes x = (.ok (m + 1), y) ∧ m + 1 ≤ bytes.length ∧
      (state x).Fits (bytes.take (m + 1)) ∧ state y = (state x).take (bytes.take (m + 1))
  write_of_full : ∀ {bytes x}, bytes ≠ [] → (state x).room = some 0 →
    ∃ y, out.write bytes x = (.error full, y) ∧ state y = (state x).refuse
  flush : ∀ x, ∃ y, out.flush x = (.ok (), y) ∧ state y = state x

/-- The sink that takes as much as it can has its limit. -/
theorem limitedBy_limited (full : IoError) : (limited full none).LimitedBy full id := by
  constructor
  · rintro bytes ⟨taken, room, refusals⟩ hbytes hroom
    have hpos : 0 < bytes.length := List.length_pos_iff.2 hbytes
    rcases room with _ | _ | room
    · refine ⟨bytes.length - 1, _, ?_, by omega, by simp [Limited.Fits], rfl⟩
      simp [limited, Nat.sub_add_cancel hpos]
    · exact absurd rfl hroom
    · have hmin : min (room + 1) bytes.length - 1 + 1 = min (room + 1) bytes.length := by omega
      refine ⟨min (room + 1) bytes.length - 1, _, ?_, by omega, ?_, rfl⟩
      · rw [hmin]
        simp [limited]
      · rintro n ⟨⟩
        rw [hmin, List.length_take]
        omega
  · rintro bytes ⟨taken, room, refusals⟩ - (rfl : room = some 0)
    exact ⟨_, rfl, rfl⟩
  · intro s
    exact ⟨s, rfl, rfl⟩

/-- A sink that takes everything is one without a limit. -/
theorem limitedBy_collecting (full : IoError) :
    collecting.LimitedBy full fun kept ↦ ⟨kept, none, none⟩ := by
  constructor
  · intro bytes kept hbytes _
    have hpos : 0 < bytes.length := List.length_pos_iff.2 hbytes
    refine ⟨bytes.length - 1, _, ?_, by omega, by simp [Limited.Fits], rfl⟩
    simp [collecting, Nat.sub_add_cancel hpos]
  · intro bytes kept _ hroom
    exact absurd hroom (by simp)
  · intro kept
    exact ⟨kept, rfl, rfl⟩

/-! ### Writing up to the limit -/

section

variable {out : Sink ω} {bytes : Bytes} {x y : ω}

theorem writeAll_of_write_eq_ok (hbytes : bytes ≠ []) {m : Nat}
    (h : out.write bytes x = (.ok (m + 1), y)) :
    out.writeAll bytes x = out.writeAll (bytes.drop (m + 1)) y := by
  obtain ⟨b, rest, rfl⟩ := List.exists_cons_of_ne_nil hbytes
  rw [writeAll, writeFrom, h]
  exact writeFrom_eq_writeAll_drop out m rest y

theorem writeAll_of_write_eq_error (hbytes : bytes ≠ []) {e : IoError}
    (h : out.write bytes x = (.error e, y)) : out.writeAll bytes x = (.error e, y) := by
  obtain ⟨b, rest, rfl⟩ := List.exists_cons_of_ne_nil hbytes
  rw [writeAll, writeFrom, h]

variable {full : IoError} {state : ω → Limited} (hout : out.LimitedBy full state)

include hout

/-- If there is room for the bytes, they are taken. -/
theorem LimitedBy.writeAll_of_fits (hfits : (state x).Fits bytes) :
    ∃ y, out.writeAll bytes x = (.ok (), y) ∧ state y = (state x).take bytes := by
  -- on the number of bytes: each offer leaves fewer of them, and as much less room
  induction hlength : bytes.length using Nat.strongRecOn generalizing bytes x with
  | ind length ih =>
    by_cases hbytes : bytes = []
    · subst hbytes
      exact ⟨x, writeAll_nil out x, (Limited.take_nil _).symm⟩
    have hpos : 0 < bytes.length := List.length_pos_iff.2 hbytes
    have hroom : (state x).room ≠ some 0 := fun hzero ↦ by
      have := hfits 0 hzero
      omega
    obtain ⟨m, y, hwrite, hm, -, hy⟩ := hout.write_of_room hbytes hroom
    have hrest : (state y).Fits (bytes.drop (m + 1)) := by
      intro n hn
      rw [hy, Limited.take, Option.map_eq_some_iff] at hn
      obtain ⟨room, hsome, rfl⟩ := hn
      have := hfits room hsome
      rw [List.length_drop, List.length_take]
      omega
    have hshorter : (bytes.drop (m + 1)).length < length := by
      rw [List.length_drop]
      omega
    obtain ⟨z, hwritten, hz⟩ := ih _ hshorter hrest rfl
    refine ⟨z, (writeAll_of_write_eq_ok hbytes hwrite).trans hwritten, ?_⟩
    rw [hz, hy, Limited.take_take, List.take_append_drop]

/-- If there is no room for all of the bytes, **those that there is room for are taken**, and the
next offer is refused. -/
theorem LimitedBy.writeAll_of_lt {n : Nat} (hroom : (state x).room = some n)
    (hn : n < bytes.length) :
    ∃ y, out.writeAll bytes x = (.error full, y) ∧
      state y = ((state x).take (bytes.take n)).refuse := by
  induction n using Nat.strongRecOn generalizing bytes x with
  | ind n ih =>
    have hbytes : bytes ≠ [] := List.length_pos_iff.1 (Nat.zero_lt_of_lt hn)
    by_cases hzero : n = 0
    · subst hzero
      obtain ⟨y, hwrite, hy⟩ := hout.write_of_full hbytes hroom
      refine ⟨y, writeAll_of_write_eq_error hbytes hwrite, ?_⟩
      rw [hy, List.take_zero, Limited.take_nil]
    have hsome : (state x).room ≠ some 0 := by
      rw [hroom]
      exact fun h ↦ hzero (Option.some.inj h)
    obtain ⟨m, y, hwrite, hm, hfits, hy⟩ := hout.write_of_room hbytes hsome
    have hpiece : (bytes.take (m + 1)).length = m + 1 := by
      rw [List.length_take]
      omega
    have hmn : m + 1 ≤ n := hpiece ▸ hfits n hroom
    have hroom' : (state y).room = some (n - (m + 1)) := by
      rw [hy, Limited.take, hroom, hpiece]
      rfl
    have hrest : n - (m + 1) < (bytes.drop (m + 1)).length := by
      rw [List.length_drop]
      omega
    obtain ⟨z, hwritten, hz⟩ := ih _ (by omega) hroom' hrest
    refine ⟨z, (writeAll_of_write_eq_ok hbytes hwrite).trans hwritten, ?_⟩
    have htake : bytes.take (m + 1) ++ (bytes.drop (m + 1)).take (n - (m + 1)) = bytes.take n := by
      rw [← List.take_add, Nat.add_sub_cancel' hmn]
    rw [hz, hy, Limited.take_take, htake]

/-! ### Reports up to the limit -/

variable (env : Environment) {line : Text} (status : Status)

theorem LimitedBy.report_of_fits (hfits : (state x).Fits (line ++ ['\n']).utf8) :
    ∃ y, Command.report line status out env x = ⟨.ok status, env, y⟩ ∧
      state y = (state x).take (line ++ ['\n']).utf8 := by
  obtain ⟨y, hwritten, hy⟩ := hout.writeAll_of_fits hfits
  refine ⟨y, ?_, hy⟩
  have hline : out.writeLine line x = (.ok (), y) := hwritten
  rw [Command.report, hline]

theorem LimitedBy.report_of_lt {n : Nat} (hroom : (state x).room = some n)
    (hn : n < (line ++ ['\n']).utf8.length) :
    ∃ y, Command.report line status out env x = ⟨.error (.io full), env, y⟩ ∧
      state y = ((state x).take ((line ++ ['\n']).utf8.take n)).refuse := by
  obtain ⟨y, hwritten, hy⟩ := hout.writeAll_of_lt hroom hn
  refine ⟨y, ?_, hy⟩
  have hline : out.writeLine line x = (.error full, y) := hwritten
  rw [Command.report, hline]

end

end Sink

/-- A line that is written is more than nothing, be it empty: it has its newline. -/
theorem Text.utf8_line_ne_nil (line : Text) : (line ++ ['\n']).utf8 ≠ [] := by
  rw [ne_eq, utf8_eq_nil_iff]
  simp

namespace Report

/-- What is said where there is room for it. -/
def bytes : Report → Bytes
  | silent _ => []
  | output line _ => (line ++ ['\n']).utf8
  | failure e _ => (e.message ++ ['\n']).utf8

/-- The status where there is room for what is said. -/
def status : Report → Status
  | silent status => status
  | output _ status => status
  | failure _ status => status

/-- A report leaves the environment as it is. -/
theorem env_command (r : Report) (out : Sink ω) (env : Environment) (x : ω) :
    (r.command out env x).env = env := by
  cases r with
  | silent status => rfl
  | output line status => rw [command, Command.env_reportingFaults, Command.env_report]
  | failure e status => exact Command.env_report _ _ _ _ _

variable {out : Sink ω} {full : IoError} {state : ω → Sink.Limited}
  (hout : out.LimitedBy full state) (env : Environment) {x : ω}

include hout

/-- If there is room for a report, it is made. -/
theorem command_of_fits (r : Report) (hfits : (state x).Fits r.bytes) :
    ∃ y, r.command out env x = ⟨.ok r.status, env, y⟩ ∧ state y = (state x).take r.bytes := by
  cases r with
  | silent status => exact ⟨x, rfl, (Sink.Limited.take_nil _).symm⟩
  | failure e status => exact hout.report_of_fits env status hfits
  | output line status =>
    obtain ⟨y, hreport, hy⟩ := hout.report_of_fits env status hfits
    refine ⟨y, ?_, hy⟩
    simp only [command, Command.reportingFaults, hreport]
    rfl

variable {n : Nat} (hroom : (state x).room = some n)

include hroom

/-- A failure that there is no room for is **broken off and not reported again**. -/
theorem command_failure_of_lt {e : ShellError} {status : Status}
    (hn : n < (failure e status).bytes.length) :
    ∃ y, (failure e status).command out env x = ⟨.error (.io full), env, y⟩ ∧
      (state y).taken = (state x).taken ++ (failure e status).bytes.take n := by
  obtain ⟨y, hreport, hy⟩ := hout.report_of_lt env status hroom hn
  refine ⟨y, hreport, ?_⟩
  rw [hy, Sink.Limited.taken_refuse]
  rfl

variable {line : Text} {status : Status} (hn : n < (output line status).bytes.length)

include hn

/-- Behind output that there is no room for, the error is reported **if the limit is lifted after
one refusal**. -/
theorem command_output_of_one (hone : (state x).refusals = some 1) :
    ∃ y, (output line status).command out env x = ⟨.ok 1, env, y⟩ ∧
      (state y).taken =
        (state x).taken ++ ((output line status).bytes.take n ++ (full.text ++ ['\n']).utf8) := by
  obtain ⟨y, hreport, hy⟩ := hout.report_of_lt env status hroom hn
  have hlifted : (state y).room = none := by
    rw [hy]
    exact Sink.Limited.room_refuse_of_one hone
  have hfits : (state y).Fits (full.text ++ ['\n']).utf8 := by
    intro m hm
    exact absurd (hlifted.symm.trans hm) (by simp)
  obtain ⟨z, hagain, hz⟩ := hout.report_of_fits env 1 hfits
  refine ⟨z, ?_, ?_⟩
  · simp only [command, Command.reportingFaults, hreport]
    exact hagain
  · rw [hz, hy, Sink.Limited.take, Sink.Limited.taken_refuse]
    exact List.append_assoc _ _ _

/-- Behind output that there is no room for, **nothing more comes** if the sink refuses again. -/
theorem command_output_of_ne (hzero : (state x).refusals ≠ some 0)
    (hone : (state x).refusals ≠ some 1) :
    ∃ y, (output line status).command out env x = ⟨.error (.io full), env, y⟩ ∧
      (state y).taken = (state x).taken ++ (output line status).bytes.take n := by
  obtain ⟨y, hreport, hy⟩ := hout.report_of_lt env status hroom hn
  have hfull : (state y).room = some 0 := by
    have hkept : ((state x).take ((line ++ ['\n']).utf8.take n)).refuse.room =
        ((state x).take ((line ++ ['\n']).utf8.take n)).room :=
      Sink.Limited.room_refuse_of_ne hzero hone
    have hlength : ((line ++ ['\n']).utf8.take n).length = n :=
      List.length_take_of_le (Nat.le_of_lt hn)
    rw [hy, hkept, Sink.Limited.take, hroom, hlength, Option.map_some, Nat.sub_self]
  have hsome : 0 < (full.text ++ ['\n']).utf8.length :=
    List.length_pos_iff.2 (Text.utf8_line_ne_nil full.text)
  obtain ⟨z, hagain, hz⟩ := hout.report_of_lt env 1 hfull hsome
  refine ⟨z, ?_, ?_⟩
  · simp only [command, Command.reportingFaults, hreport]
    exact hagain
  · rw [hz, List.take_zero, Sink.Limited.take_nil, Sink.Limited.taken_refuse, hy,
      Sink.Limited.taken_refuse]
    rfl

end Report

/-! ### Lines up to the limit -/

/-- A sink with a limit passes on what it holds back, so what the account says is done. -/
theorem Account.on_of_limitedBy (account : Account σ) {out : Sink ω} {full : IoError}
    {state : ω → Sink.Limited} (hout : out.LimitedBy full state) (env : Environment) (w : σ)
    (x : ω) :
    ∃ y, state y = state x ∧
      account.on out env w x = (account.report.command out account.env y).beside account.world := by
  obtain ⟨flushes, env', w', report⟩ := account
  cases flushes with
  | false => exact ⟨x, rfl, rfl⟩
  | true =>
    obtain ⟨y, hflush, hy⟩ := hout.flush x
    refine ⟨y, hy, ?_⟩
    simp only [Account.on, if_true, hflush]

/-- On sinks with a limit a line comes to one report, from the same environment and beside the same
world of the host, whatever the limit is. -/
theorem Interpreter.exists_report_evalLine (host : Host σ) (line : Text) (env : Environment)
    (w : σ) :
    ∃ (env' : Environment) (w' : σ) (r : Report), r.Suits (words line.trim).head? ∧
      ∀ {ω : Type} {out : Sink ω} {full : IoError} {state : ω → Sink.Limited} (x : ω),
        out.LimitedBy full state → ∃ y, state y = state x ∧
          (default host.onFst).evalLine line out.onSnd env (w, x) =
            (r.command out env' y).beside w' := by
  obtain ⟨account, hsuits, hcovers⟩ := exists_account_evalLine host env w line
  refine ⟨account.env, account.world, account.report, hsuits, fun {ω out _ _} x hout ↦ ?_⟩
  obtain ⟨y, hy, haccount⟩ := account.on_of_limitedBy hout env w x
  exact ⟨y, hy, (hcovers ω out x).trans haccount⟩

/-- **A line on a sink with a limit.** Let a sink have room for `n` bytes, and let `said` be what
the line writes where there is no limit, and `status` its end there. If there is room for `said`, it
is written, and the end is the same. If not, the first `n` bytes of it are, and:

* behind the output of `echo`, `type` or `pwd` the error is reported, and the status is 1, if the
  sink refuses just once;
* nothing is written behind it if the sink refuses more often, and the line ends with the error;
* this is so too, however often the sink refuses, behind what other lines write, which is always a
  failure in the shell's own words.

What becomes of the environment and of the world of the host does not depend on the limit. -/
theorem evalLine_of_limitedBy {out : Sink ω} {full : IoError} {state : ω → Sink.Limited}
    (hout : out.LimitedBy full state) (host : Host σ) (line : Text) (env : Environment) (w : σ)
    {x : ω} {n : Nat} (hroom : (state x).room = some n) (hrefuses : (state x).refusals ≠ some 0) :
    let first := (words line.trim).head?
    let free := (Interpreter.default host.onFst).evalLine line Sink.collecting.onSnd env (w, [])
    let tight := (Interpreter.default host.onFst).evalLine line out.onSnd env (w, x)
    let said := free.world.2
    let before := (state x).taken
    let taken := (state tight.world.2).taken
    (tight.env = free.env ∧ tight.world.1 = free.world.1) ∧
    (∃ status, free.result = .ok status ∧
      (said.length ≤ n → tight.result = .ok status ∧ taken = before ++ said)) ∧
    (n < said.length →
      (IsSpeaking first → (state x).refusals = some 1 →
        tight.result = .ok 1 ∧ taken = before ++ (said.take n ++ (full.text ++ ['\n']).utf8)) ∧
      (IsSpeaking first → (state x).refusals ≠ some 1 →
        tight.result = .error (.io full) ∧ taken = before ++ said.take n) ∧
      (¬ IsSpeaking first →
        (tight.result = .error (.io full) ∧ taken = before ++ said.take n) ∧
          ∃ e : ShellError, said = (e.message ++ ['\n']).utf8)) := by
  intro first free tight said before taken
  obtain ⟨env', w', r, hsuits, hrun⟩ := Interpreter.exists_report_evalLine host line env w
  -- where there is no limit, the report is made
  have hfree : free = ⟨.ok r.status, env', w', r.bytes⟩ := by
    obtain ⟨kept, hkept, hevaluated⟩ := hrun [] (Sink.limitedBy_collecting full)
    obtain rfl : kept = [] := congrArg Sink.Limited.taken hkept
    obtain ⟨after, hcommand, hafter⟩ := Report.command_of_fits (Sink.limitedBy_collecting full)
      env' (x := []) r (by simp [Sink.Limited.Fits])
    obtain rfl : after = r.bytes := congrArg Sink.Limited.taken hafter
    exact hevaluated.trans (congrArg (Outcome.beside · w') hcommand)
  have hsaid : said = r.bytes := congrArg (fun o ↦ o.world.2) hfree
  -- where there is one, what becomes of the line is what becomes of the report
  obtain ⟨y, hy, htight⟩ := hrun x hout
  have hevaluated : ∀ {result z more}, r.command out env' y = ⟨result, env', z⟩ →
      (state z).taken = (state y).taken ++ more →
        tight.result = result ∧ taken = before ++ more := by
    intro result z more hcommand hz
    have houtcome : tight = ⟨result, env', w', z⟩ :=
      htight.trans (congrArg (Outcome.beside · w') hcommand)
    have htaken : taken = (state z).taken := congrArg (fun o ↦ (state o.world.2).taken) houtcome
    exact ⟨congrArg Outcome.result houtcome, by rw [htaken, hz, hy]⟩
  have hroomy : (state y).room = some n := hy ▸ hroom
  rw [hsaid]
  refine ⟨?_, ⟨r.status, congrArg Outcome.result hfree, fun hfits ↦ ?_⟩, fun hn ↦ ?_⟩
  · have henv : tight.env = env' := (congrArg Outcome.env htight).trans (r.env_command out env' y)
    have hworld : tight.world.1 = w' := congrArg (fun o ↦ o.world.1) htight
    rw [henv, hworld, hfree]
    exact ⟨rfl, rfl⟩
  · have hfits' : (state y).Fits r.bytes := fun m hm ↦
      Option.some.inj (hroomy.symm.trans hm) ▸ hfits
    obtain ⟨z, hcommand, hz⟩ := Report.command_of_fits hout env' r hfits'
    exact hevaluated hcommand (congrArg Sink.Limited.taken hz)
  · cases r with
    | silent status => exact absurd hn n.not_lt_zero
    | output text status =>
      refine ⟨fun _ hone ↦ ?_, fun _ hmore ↦ ?_, fun hquiet ↦ absurd hsuits hquiet⟩
      · obtain ⟨z, hcommand, hz⟩ :=
          Report.command_output_of_one hout env' hroomy hn (hy ▸ hone)
        exact hevaluated hcommand hz
      · obtain ⟨z, hcommand, hz⟩ :=
          Report.command_output_of_ne hout env' hroomy hn (hy ▸ hrefuses) (hy ▸ hmore)
        exact hevaluated hcommand hz
    | failure e status =>
      refine ⟨fun hspeaking ↦ absurd hspeaking hsuits, fun hspeaking ↦ absurd hspeaking hsuits,
        fun _ ↦ ⟨?_, e, rfl⟩⟩
      obtain ⟨z, hcommand, hz⟩ := Report.command_failure_of_lt hout env' hroomy hn
      exact hevaluated hcommand hz

/-- A sink with room for two bytes: what `echo` writes is broken off, and the refusal is reported
behind it if there is just one; that a name stands for nothing is broken off for good. -/
theorem evalLine_of_limitedBy_twoBytes :
    let full : IoError := ⟨"no room".toList⟩
    let env := Environment.startingIn .root
    let on (refusals : Option Nat) (line : Text) :=
      (Interpreter.default directoriesOnly.onFst).evalLine line (Sink.limited full none).onSnd env
        ((), ⟨[], some 2, refusals⟩)
    ((on (some 1) "echo abc".toList).result = .ok 1 ∧
      (on (some 1) "echo abc".toList).world.2.taken = Text.utf8 "abno room\n".toList) ∧
    ((on none "echo abc".toList).result = .error (.io full) ∧
      (on none "echo abc".toList).world.2.taken = Text.utf8 "ab".toList) ∧
    ((on (some 1) "frob".toList).result = .error (.io full) ∧
      (on (some 1) "frob".toList).world.2.taken = Text.utf8 "fr".toList) := by
  intro full env on
  have hout := Sink.limitedBy_limited full
  have hecho := fun refusals (hrefuses : refusals ≠ some 0) ↦
    evalLine_of_limitedBy hout directoriesOnly "echo abc".toList env ()
      (x := ⟨[], some 2, refusals⟩) rfl hrefuses
  have hspeaking : IsSpeaking (words (Text.trim "echo abc".toList)).head? :=
    ⟨.echo, by simp, by decide +kernel⟩
  refine ⟨?_, ?_, ?_⟩
  · exact ((hecho (some 1) (by simp)).2.2 (by decide +kernel)).1 hspeaking rfl
  · exact ((hecho none (by simp)).2.2 (by decide +kernel)).2.1 hspeaking (by simp)
  · have hquiet : ¬ IsSpeaking (words (Text.trim "frob".toList)).head? := by
      rintro ⟨b, hb, hname⟩
      revert hname
      revert b
      decide +kernel
    exact (((evalLine_of_limitedBy hout directoriesOnly "frob".toList env ()
      (x := ⟨[], some 2, some 1⟩) rfl (by simp)).2.2 (by decide +kernel)).2.2 hquiet).1

end LineShell
