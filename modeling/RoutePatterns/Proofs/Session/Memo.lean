import RoutePatterns.Proofs.Route.Memo
import RoutePatterns.Session.Basic

/-!
# The memo of a session

A session has one memo for all routes that it generates from, of every table that it has had. A step touches the
memo only by the calls that it makes (`Session.memo_step`), so the memo stays sound (`Session.sound_memo_run`), and
paths and hosts are generated as if there were none (`Session.reply_generate`).
-/

namespace RoutePatterns

namespace Session

variable {s : Session}

/-- The calls that a step makes. -/
def generations (s : Session) : Step → List Generation
  | .generate name params =>
    match s.current.get? name with
    | none => []
    | some r => [.path r.artifact.route params.get?, .host r.artifact.route params.get?]
  | _ => []

@[simp] theorem replaceCurrent_memo (s : Session) (h : CacheHandle) (load : TableLoad) :
    (s.replaceCurrent h load).1.memo = s.memo := by
  rw [replaceCurrent]
  split <;> rfl

@[simp] theorem replaceWatched_memo (s : Session) (h : CacheHandle) (load : TableLoad) :
    (s.replaceWatched h load).1.memo = s.memo := by
  rw [replaceWatched]
  split <;> rfl

/-- **A step changes the memo by its calls only.** -/
theorem memo_step (s : Session) (t : Step) :
    (s.step t).1.memo = (s.memo.answerAll (s.generations t)).2 := by
  cases t with
  | generate name params =>
    cases hfind : s.current.get? name with
    | none => simp only [step_generate, generate, generations, hfind, ConstraintMemo.answerAll]
    | some r =>
      simp only [step_generate, generate, generations, hfind, ConstraintMemo.answerAll, Generation.answerThrough]
  | loadConfig =>
    rw [step_loadConfig]
    split <;> rfl
  | parseTable text => exact s.replaceCurrent_memo _ _
  | loadTable => exact s.replaceCurrent_memo _ _
  | reload => exact s.replaceWatched_memo _ _
  | get p | getClone p | clear | write bytes | remove | find name | active => rfl

theorem sound_memo_step (h : s.memo.Sound) (t : Step) : (s.step t).1.memo.Sound := by
  rw [memo_step, ConstraintMemo.answerAll_eq h]
  exact h.ask _

theorem sound_memo_run (h : s.memo.Sound) (steps : List Step) : (s.run steps).memo.Sound := by
  induction steps generalizing s with
  | nil => exact h
  | cons t steps ih => exact ih (sound_memo_step h t)

/-- **A session generates as if it had no memo**, whatever was generated before and from whatever tables. -/
theorem reply_generate (steps : List Step) (name : String) (params : Bindings) :
    ((start.run steps).step (.generate name params)).2 =
      .generated (((start.run steps).current.get? name).map fun r =>
        (r.artifact.route.generatePath params.get?, r.artifact.route.generateHost params.get?)) := by
  have hsound : (start.run steps).memo.Sound := sound_memo_run ConstraintMemo.sound_empty steps
  cases hfind : (start.run steps).current.get? name with
  | none => simp only [step_generate, generate, hfind, Option.map_none]
  | some r =>
    have hpath := ConstraintMemo.answerThrough_eq hsound (.path r.artifact.route params.get?)
    have hhost := ConstraintMemo.answerThrough_eq
      (hsound.ask (Generation.path r.artifact.route params.get?).checked) (.host r.artifact.route params.get?)
    simp only [Generation.answerThrough] at hpath hhost
    simp only [step_generate, generate, hfind, hpath, hhost, Option.map_some]
    rfl

end Session

end RoutePatterns
