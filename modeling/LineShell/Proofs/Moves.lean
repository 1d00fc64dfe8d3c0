import LineShell.Proofs.Path.Join
import LineShell.Proofs.Session

/-!
# Several changes of directory

A change of directory looks at its target from where the one before it has led. Where several of
them succeed one after another, **a single one to the joined target does the same**: it succeeds,
and it leaves the very same environment (`Session.moves_joinAll`). This holds wherever the session
begins, also in a directory that is not in normal form.

What this rests on is that paths behind each other are seen one after the other
(`Environment.absolutize_moved`), and that a change of directory asks for no more than whether its
target, made absolute, is a directory (`Session.Step.IsCd.result_eq_ok_iff`). So of all directories
on the way only the last one matters to the joined target. The converse fails for the same reason:
`x/..` is left out of a normal form where there is no `x` to go to.

The files are the same for all calls; the sinks and all else in the worlds may differ. A tilde is
left out, since it stands for the home directory as a target of its own and for itself in a path.
-/

namespace LineShell

variable {σ : Type}

namespace Session

/-- The call is of `cd`, with a target for its only argument, and it finds these files. -/
structure Step.IsCd (host : Host σ) (files : Path → Option FileKind) (target : Text)
    (s : Step σ) : Prop where
  argv_eq : s.call.argv = ["cd".toList, target]
  files_eq : host.kind? s.world = files

/-- Changes of directory to some targets, each from where the one before it has led, and all of them
successful. -/
inductive Moves (host : Host σ) (files : Path → Option FileKind) :
    Environment → List Text → Environment → Prop
  | nil (env : Environment) : Moves host files env [] env
  | cons {env after : Environment} {target : Text} {rest : List Text} {s : Step σ}
    (hcd : s.IsCd host files target) (hok : (s.outcome host env).result = .ok 0)
    (hrest : Moves host files (s.outcome host env).env rest after) :
    Moves host files env (target :: rest) after

variable {host : Host σ} {files : Path → Option FileKind} {env after : Environment}

/-! ### One change of directory -/

namespace Step.IsCd

variable {s : Step σ} {target : Text}

/-- A change of directory is decided by what its target is, made absolute. -/
theorem outcome_eq (hs : s.IsCd host files target) (htilde : target ≠ ['~']) :
    s.outcome host env =
      if files (env.absolutize ⟨target⟩) = some .directory then
        ⟨.ok 0, { env with dir := env.absolutize ⟨target⟩ }, s.world⟩
      else
        Command.report (ShellError.noSuchDirectory target).message 1 s.out env s.world := by
  have htarget : cdTarget? env (host.vars s.world) (host.accountHome? s.world) [target] =
      some target := by
    rw [cdTarget?, if_neg htilde]
  rw [Step.outcome, Call.command_eq_dispatch, hs.argv_eq, Interpreter.dispatch,
    Interpreter.run_default_cd host env s.world _ s.out htarget, Host.isDirectory, hs.files_eq]
  simp only [beq_iff_eq]

/-- It succeeds **just if that is a directory**. -/
theorem result_eq_ok_iff (hs : s.IsCd host files target) (htilde : target ≠ ['~']) :
    (s.outcome host env).result = .ok 0 ↔ files (env.absolutize ⟨target⟩) = some .directory := by
  rw [hs.outcome_eq htilde]
  split
  · next hdir => exact iff_of_true rfl hdir
  · next hdir =>
    exact iff_of_false (Command.result_report_ne _ 1 s.out env s.world (by decide)) hdir

theorem env_outcome (hs : s.IsCd host files target) (htilde : target ≠ ['~'])
    (hdir : files (env.absolutize ⟨target⟩) = some .directory) :
    (s.outcome host env).env = { env with dir := env.absolutize ⟨target⟩ } := by
  rw [hs.outcome_eq htilde, if_pos hdir]

end Step.IsCd

/-! ### Several of them -/

/-- Where the target is a directory, there is a change of directory to it, and the others go on from
there. -/
theorem Moves.of_directory {s : Step σ} {target : Text} {dir : Path} {rest : List Text}
    (hs : s.IsCd host files target) (htilde : target ≠ ['~'])
    (htarget : env.absolutize ⟨target⟩ = dir) (hdir : files dir = some .directory)
    (hrest : Moves host files { env with dir } rest after) :
    Moves host files env (target :: rest) after := by
  subst htarget
  exact .cons hs ((hs.result_eq_ok_iff htilde).2 hdir) (by rwa [hs.env_outcome htilde hdir])

/-- What goes on from a directory that is seen as `p` **ends where all targets behind `p` lead**. -/
theorem Moves.after_eq {p : Path} {targets : List Text}
    (h : Moves host files { env with dir := env.absolutize p } targets after)
    (hp : files (env.absolutize p) = some .directory)
    (htilde : ∀ target ∈ targets, target ≠ ['~']) :
    files (env.absolutize (p.joinAll targets)) = some .directory ∧
      after = { env with dir := env.absolutize (p.joinAll targets) } := by
  induction targets generalizing p with
  | nil =>
    cases h
    rw [Path.joinAll_nil]
    exact ⟨hp, rfl⟩
  | cons target rest ih =>
    cases h with
    | cons hcd hok hrest =>
      obtain ⟨hhead, htail⟩ := List.forall_mem_cons.1 htilde
      have hdir := (hcd.result_eq_ok_iff hhead).1 hok
      rw [hcd.env_outcome hhead hdir] at hrest
      rw [Environment.absolutize_moved] at hdir hrest
      rw [Path.joinAll_cons]
      exact ih hrest hdir htail

/-- **Several changes of directory are one**, to all targets behind each other. For it makes no
difference to a normal form whether the first of two paths has been normalized; and so, where
changes of directory to some targets, none of them a tilde, succeed one after another, a single one
to the joined target succeeds and leaves the same environment. -/
theorem moves_joinAll (host : Host σ) :
    (∀ p q : Path, (p.normalize.join q).normalize = (p.join q).normalize) ∧
    ∀ {files : Path → Option FileKind} {env after : Environment} {first : Text}
      {rest : List Text}, (∀ target ∈ first :: rest, target ≠ ['~']) →
      Moves host files env (first :: rest) after →
      ∀ s : Step σ, s.IsCd host files (Path.joinAll ⟨first⟩ rest).text →
        (s.outcome host env).result = .ok 0 ∧ (s.outcome host env).env = after := by
  refine ⟨Path.normalize_join_normalize, ?_⟩
  intro files env after first rest htilde h s hs
  obtain ⟨hfirst, hrest⟩ := List.forall_mem_cons.1 htilde
  have hjoined : (Path.joinAll ⟨first⟩ rest).text ≠ ['~'] :=
    Path.text_joinAll_ne (by decide) hfirst hrest
  cases h with
  | cons hcd hok hmoves =>
    have hdir := (hcd.result_eq_ok_iff hfirst).1 hok
    rw [hcd.env_outcome hfirst hdir] at hmoves
    obtain ⟨hlast, rfl⟩ := hmoves.after_eq hdir hrest
    exact ⟨(hs.result_eq_ok_iff hjoined).2 hlast, hs.env_outcome hjoined hlast⟩

/-- Three changes of directory, to the parent, to a name and to the empty path, from a directory
that is not in normal form. -/
theorem moves_joinAll_tmp :
    let files := tmpAlone.kind? []
    let env := Environment.startingIn ⟨"//tmp/.".toList⟩
    let after := Environment.startingIn ⟨"/tmp".toList⟩
    let targets := ["..".toList, "tmp".toList, []]
    let joined : Step Bytes := ⟨.line "cd ../tmp/".toList, .collecting, []⟩
    (∀ target ∈ targets, target ≠ ['~']) ∧ Moves tmpAlone files env targets after ∧
      joined.IsCd tmpAlone files (Path.joinAll ⟨"..".toList⟩ ["tmp".toList, []]).text ∧
      (joined.outcome tmpAlone env).result = .ok 0 ∧
      (joined.outcome tmpAlone env).env = after := by
  intro files env after targets joined
  have htilde : ∀ target ∈ targets, target ≠ ['~'] := by decide
  let up : Step Bytes := ⟨.line "cd ..".toList, .collecting, []⟩
  let down : Step Bytes := ⟨.words ["cd".toList, "tmp".toList], .collecting, []⟩
  let stay : Step Bytes := ⟨.named "cd".toList [[]], .collecting, []⟩
  have hmoves : Moves tmpAlone files env targets after := by
    have hroot : files .root = some .directory := by decide
    have htmp : files ⟨"/tmp".toList⟩ = some .directory := by decide
    refine .of_directory (s := up) ⟨by decide, rfl⟩ (by decide) (by decide) hroot ?_
    refine .of_directory (s := down) ⟨by decide, rfl⟩ (by decide) (by decide) htmp ?_
    exact .of_directory (s := stay) ⟨by decide, rfl⟩ (by decide) (by decide) htmp (.nil after)
  have hjoined : joined.IsCd tmpAlone files
      (Path.joinAll ⟨"..".toList⟩ ["tmp".toList, []]).text := ⟨by decide, rfl⟩
  exact ⟨htilde, hmoves, hjoined, (moves_joinAll tmpAlone).2 htilde hmoves joined hjoined⟩

end Session

end LineShell
