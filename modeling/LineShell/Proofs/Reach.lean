import LineShell.Proofs.Dispatch
import LineShell.Proofs.Path.Single
import LineShell.Proofs.Path.Tree

/-!
# Reaching what a path leads to

The shell follows no path itself. It makes a normal form of what was typed and asks the host about
that. On a host whose files are a tree without links (`Host.Shows`), nothing that can be reached by
following the path as it was typed is lost by this:

* `Builtin.run_cd_of_resolve`: `cd` moves to every directory that its target leads to;
* `Host.find?_of_resolve`: a name with a separator in it is found as the program that it leads to,
  and the search path has no say.

For the second, a name that leads to a file has to be told from one that is searched for. It ends in
an ordinary name (`FileTree.exists_pieces_of_file`), as all other pieces lead to directories only;
so with a separator in it, it is not one of the names that are searched for all the same
(`Path.isSearched_eq_false`). A name such as `x/` has a separator in it and is searched for, but it
cannot lead to a file.
-/

namespace LineShell

variable {σ : Type} {host : Host σ} {w : σ} {T : FileTree} {env : Environment}

/-- The files of the host are those of a tree: of an absolute path it says what there is where the
path leads. -/
def Host.Shows (host : Host σ) (w : σ) (T : FileTree) : Prop :=
  ∀ p : Path, p.isAbsolute = true → host.kind? w p = (T.resolve [] p).bind T.kind?

/-- What is seen from the working directory is there under its absolute path too. -/
theorem Environment.resolve_absolutize (hdir : env.dir.isAbsolute = true)
    {here last : List Text} (hhere : T.resolve [] env.dir = some here) {target : Path}
    (h : T.resolve here target = some last) :
    T.resolve [] (env.absolutize target) = some last :=
  FileTree.resolve_normalize (Path.isAbsolute_join hdir) (FileTree.resolve_join hdir hhere h)

/-- The host tells of an absolutized path what the path leads to. -/
theorem Host.Shows.kind?_absolutize (hshows : host.Shows w T) (hdir : env.dir.isAbsolute = true)
    {here last : List Text} (hhere : T.resolve [] env.dir = some here) {target : Path}
    (h : T.resolve here target = some last) :
    host.kind? w (env.absolutize target) = T.kind? last := by
  rw [hshows _ (env.isAbsoluteNormal_absolutize hdir target).isAbsolute,
    Environment.resolve_absolutize hdir hhere h, Option.bind_some]

/-! ### Changing directory -/

/-- `cd` **moves to the directory** that its target leads to. -/
theorem Builtin.run_cd_of_resolve (hshows : host.Shows w T) (hdir : env.dir.isAbsolute = true)
    {here last : List Text} (hhere : T.resolve [] env.dir = some here) {target : Text}
    (htilde : target ≠ ['~']) (h : T.resolve here ⟨target⟩ = some last)
    (hlast : T.kind? last = some .directory) (ignored : List Text) (out : Sink σ) :
    (Interpreter.default host).run "cd".toList (target :: ignored) out env w =
      ⟨.ok 0, { env with dir := env.absolutize ⟨target⟩ }, w⟩ := by
  have htarget : cdTarget? env (host.vars w) (host.accountHome? w) (target :: ignored) =
      some target := by
    rw [cdTarget?, if_neg htilde]
  have hisdir : host.isDirectory w (env.absolutize ⟨target⟩) = true := by
    rw [Host.isDirectory, hshows.kind?_absolutize hdir hhere h, hlast]
    rfl
  rw [Interpreter.run_default_cd host env w _ out htarget, if_pos hisdir]

/-! ### Finding a program -/

/-- A path that leads to a file ends in an ordinary name. -/
theorem FileTree.exists_pieces_of_file {here last : List Text} {pieces : List Text}
    {runnable : Bool} (hpieces : pieces ≠ []) (h : T.walk here pieces = some last)
    (hlast : T.kind? last = some (.file runnable)) :
    ∃ front n, pieces = front ++ [n] ∧ Component.ofPiece? n = some (.name n) := by
  obtain ⟨front, n, hsplit⟩ := (List.eq_nil_or_concat pieces).resolve_left hpieces
  rw [List.concat_eq_append] at hsplit
  refine ⟨front, n, hsplit, ?_⟩
  rw [hsplit, walk_append] at h
  obtain ⟨place, -, hn⟩ := Option.bind_eq_some_iff.1 h
  obtain ⟨next, hnext, hend⟩ := Option.bind_eq_some_iff.1 hn
  obtain rfl := Option.some.inj hend
  -- a piece that is no name leads from a directory to a directory
  obtain ⟨hdir, ⟨-, rfl⟩ | ⟨-, rfl⟩ | ⟨hname, -⟩⟩ := step_cases hnext
  · exact absurd (hdir.symm.trans hlast) (by simp)
  · exact absurd ((kind?_parent hdir).symm.trans hlast) (by simp)
  · exact hname

/-- A path with a separator in it that ends in an ordinary name is not searched for. -/
theorem Path.isSearched_eq_false {p : Path} (hsep : '/' ∈ p.text) {front : List Text} {n : Text}
    (hpieces : p.pieces = front ++ [n]) (hn : Component.ofPiece? n = some (.name n)) :
    p.isSearched = false := by
  rw [← Bool.not_eq_true, isSearched_iff_isTrailed hsep]
  rintro ⟨first, others, hothers, -, hne, hempty⟩
  -- the last piece is one of those behind the first, which are no components
  have hmem : n ∈ others := by
    obtain ⟨middle, last, rfl⟩ := (List.eq_nil_or_concat others).resolve_left hne
    have hlast := congrArg List.getLast? (hpieces.symm.trans hothers)
    simp only [List.concat_eq_append, ← List.cons_append, List.getLast?_concat,
      Option.some_inj] at hlast
    simp [hlast]
  exact absurd (hn.symm.trans (Component.ofPiece?_eq_none_iff.2 (hempty n hmem))) (by simp)

/-- A name that is not empty and not searched for is **found as the path that it is**, if that may
be run. -/
theorem Host.find?_of_isSearched_eq_false {name : Text} (hname : name ≠ [])
    (hsearched : Path.isSearched ⟨name⟩ = false) :
    host.find? w env name =
      if host.isRunnable w (env.absolutize ⟨name⟩) then some (env.absolutize ⟨name⟩) else none := by
  have hne : Path.components ⟨name⟩ ≠ [] := mt Path.components_eq_nil_iff.1 hname
  rw [find?, Environment.candidates, if_neg hne, hsearched, if_neg Bool.false_ne_true]
  split
  · next hrun => exact List.find?_cons_of_pos hrun
  · next hrun => rw [List.find?_cons_of_neg hrun, List.find?_nil]

/-- A name with a separator in it is **found as the program that it leads to**. -/
theorem Host.find?_of_resolve (hshows : host.Shows w T) (hdir : env.dir.isAbsolute = true)
    {here last : List Text} (hhere : T.resolve [] env.dir = some here) {name : Text}
    (hsep : '/' ∈ name) (h : T.resolve here ⟨name⟩ = some last)
    (hlast : T.kind? last = some (.file true)) :
    host.find? w env name = some (env.absolutize ⟨name⟩) := by
  obtain ⟨front, n, hpieces, hn⟩ :=
    FileTree.exists_pieces_of_file (List.splitOn_ne_nil '/' name) h hlast
  have hsearched : Path.isSearched ⟨name⟩ = false := Path.isSearched_eq_false hsep hpieces hn
  have hrunnable : host.isRunnable w (env.absolutize ⟨name⟩) = true := by
    rw [isRunnable, hshows.kind?_absolutize hdir hhere h, hlast]
    rfl
  rw [find?_of_isSearched_eq_false (List.ne_nil_of_mem hsep) hsearched, if_pos hrunnable]

/-! ### Both -/

/-- **Nothing that a path leads to is lost** when the shell makes a normal form of it: `cd` moves to
every directory that its target leads to, and a name with a separator in it is found as the program
that it leads to. -/
theorem reaches_targets (hshows : host.Shows w T) (hdir : env.dir.isAbsolute = true)
    {here : List Text} (hhere : T.resolve [] env.dir = some here) (target : Text) :
    (∀ last, target ≠ ['~'] → T.resolve here ⟨target⟩ = some last →
      T.kind? last = some .directory → ∀ (ignored : List Text) (out : Sink σ),
        let o := (Interpreter.default host).run "cd".toList (target :: ignored) out env w
        o.result = .ok 0 ∧ T.resolve [] o.env.dir = some last) ∧
    (∀ last, '/' ∈ target → T.resolve here ⟨target⟩ = some last →
      T.kind? last = some (.file true) →
        ∃ p, host.find? w env target = some p ∧ T.resolve [] p = some last) := by
  constructor
  · intro last htilde h hlast ignored out
    rw [Builtin.run_cd_of_resolve hshows hdir hhere htilde h hlast ignored out]
    exact ⟨rfl, Environment.resolve_absolutize hdir hhere h⟩
  · intro last hsep h hlast
    exact ⟨_, Host.find?_of_resolve hshows hdir hhere hsep h hlast,
      Environment.resolve_absolutize hdir hhere h⟩

/-- A host whose files are those of a tree, for a process that stands at the root. -/
def Host.ofTree (T : FileTree) : Host Bytes where
  kind? _ p := (T.resolve [] p).bind T.kind?
  vars _ := ∅
  dir? _ := none
  accountHome? _ := none
  spawn _ w := (.ok 0, w)
  input w := ([], w)

/-- A tree with one program in it, `/bin/tool`. -/
def toolAlone : FileTree where
  kind? place :=
    if place = [] ∨ place = ["bin".toList] then some .directory
    else if place = ["tool".toList, "bin".toList] then some (.file true)
    else none
  kind?_root := rfl
  kind?_tail := by
    intro n place h
    by_cases hbin : n :: place = ["bin".toList]
    · obtain ⟨-, rfl⟩ := List.cons.inj hbin
      rfl
    · by_cases htool : n :: place = ["tool".toList, "bin".toList]
      · obtain ⟨-, rfl⟩ := List.cons.inj htool
        rfl
      · simp only [hbin, htool, reduceCtorEq, or_false, if_false, Option.isSome_none,
          Bool.false_eq_true] at h

/-- From `/bin`, by ways that go above the root and through `/bin` twice. -/
theorem reaches_targets_tool :
    let env := Environment.startingIn ⟨"//bin/.".toList⟩
    let host := Host.ofTree toolAlone
    let o := (Interpreter.default host).run "cd".toList ["../../bin/./".toList] .collecting env []
    host.Shows [] toolAlone ∧ env.dir.isAbsolute = true ∧
      toolAlone.resolve [] env.dir = some ["bin".toList] ∧
      (o.result = .ok 0 ∧ toolAlone.resolve [] o.env.dir = some ["bin".toList]) ∧
      ∃ p, host.find? [] env "..//bin/../bin/tool".toList = some p ∧
        toolAlone.resolve [] p = some ["tool".toList, "bin".toList] := by
  intro env host
  have hshows : host.Shows [] toolAlone := fun _ _ ↦ rfl
  have hdir : env.dir.isAbsolute = true := by decide
  have hhere : toolAlone.resolve [] env.dir = some ["bin".toList] := by decide
  refine ⟨hshows, hdir, hhere, ?_, ?_⟩
  · exact (reaches_targets hshows hdir hhere "../../bin/./".toList).1 _ (by decide) (by decide)
      (by decide) [] .collecting
  · exact (reaches_targets hshows hdir hhere "..//bin/../bin/tool".toList).2 _ (by decide)
      (by decide) (by decide)

end LineShell
