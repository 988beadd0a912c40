import AgentSessions.Proofs.Orchestration.Likeness

/-!
# Floors that mirror each other

Two floors show the same of a session (`Floor.Mirrors`): who is at work, what waits, what is stored,
and how far the work has come. Operations for other sessions do not change what a floor shows of it
(`Floor.Mirrors.spared`), and an operation for the session that is done on both floors keeps them
alike, and the same is seen of it (`Floor.goAlike_perform`).
-/

set_option autoImplicit false

namespace AgentSessions

open Engine (Ask)

variable {view : Instant → Instant} {s : SessionId}

/-! ## On the floor -/

namespace Floor

/-- The floor `g` shows of a session what `f` shows of it. -/
structure Mirrors (view : Instant → Instant) (s : SessionId) (f g : Floor) : Prop where
  desk : f.desk.Mirrors view s g.desk
  store : g.store s = (f.store s).map (Snapshot.retime view)
  works : List.Forall₂ (Underway.Mirrors view) (f.worksOn s) (g.worksOn s)
  tripped : ∀ u ∈ f.worksOn s, ∀ v ∈ g.worksOn s, ∀ t t', u.pending.engine? = some t →
    v.pending.engine? = some t' → (t' ∈ g.tripped ↔ t ∈ f.tripped)

theorem mirrors_opening (maxBacklog : Option Nat) (store : SessionId → Option Snapshot)
    (s : SessionId) :
    (opening maxBacklog store).Mirrors view s
      (opening maxBacklog fun id => (store id).map (Snapshot.retime view)) :=
  ⟨⟨rfl, rfl, rfl, rfl⟩, rfl, .nil, fun u hu => by cases hu⟩

section

variable {setup : Engine.Setup} {o : Oracle} {f f' g g' : Floor}

/-- What is done for other sessions cannot be seen. -/
theorem Mirrors.spared (h : f.Mirrors view s g) (hspares : f.Spares s f') :
    f'.Mirrors view s g := by
  refine ⟨⟨?_, ?_, ?_, ?_⟩, ?_, ?_, fun u hu v hv t t' htoken htoken' => ?_⟩
  · rw [hspares.desk.same.1, h.desk.busy]
  · rw [hspares.desk.same.2, h.desk.waiting]
  · rw [hspares.desk.limit, h.desk.limit]
  · rw [hspares.desk.drains, h.desk.drains]
  · rw [hspares.store, h.store]
  · rw [hspares.works]
    exact h.works
  · rw [hspares.works] at hu
    rw [hspares.tripped u hu t htoken]
    exact h.tripped u hu v hv t t' htoken htoken'

/-- Drains are started on both sides. -/
theorem Mirrors.settle (h : f.Mirrors view s g) : f.settle.Mirrors view s g.settle := by
  refine ⟨⟨h.desk.busy, h.desk.waiting, h.desk.limit, rfl⟩, h.store, ?_, ?_⟩
  · rw [worksOn_settle, worksOn_settle, h.desk.drains]
    refine List.rel_append h.works ?_
    induction f.desk.drainsFor s with
    | nil => exact .nil
    | cons id rest ih => exact .cons (.opening id) ih
  · intro u hu v hv t t' htoken htoken'
    -- a drain that is started has no engine yet
    have hold : ∀ {f : Floor} {u : Underway} {t : Token}, u ∈ f.settle.worksOn s →
        u.pending.engine? = some t → u ∈ f.worksOn s := by
      intro f u t hu htoken
      rw [worksOn_settle] at hu
      rcases List.mem_append.mp hu with hu | hu
      · exact hu
      · obtain ⟨id, -, rfl⟩ := List.mem_map.mp hu
        cases htoken
    exact h.tripped u (hold hu htoken) v (hold hv htoken') t t' htoken htoken'

/-- The same work comes in on both sides, and has to be loaded. -/
theorem Mirrors.more (h : f.Mirrors view s g) {new : List Underway}
    (hnew : ∀ u ∈ new, ∃ a : Activity, u = ⟨a, .load⟩) (hf : f'.underway = f.underway ++ new)
    (hg : g'.underway = g.underway ++ new) (hdesk : f'.desk.Mirrors view s g'.desk)
    (hstore : f'.store = f.store ∧ g'.store = g.store)
    (htripped : f'.tripped = f.tripped ∧ g'.tripped = g.tripped) : f'.Mirrors view s g' := by
  have hworks : ∀ {f f' : Floor}, f'.underway = f.underway ++ new → f'.worksOn s =
      f.worksOn s ++ new.filter fun u => decide (u.activity.session = s) := by
    intro f f' hunderway
    rw [worksOn, hunderway, List.filter_append, worksOn]
  have hold : ∀ {f f' : Floor} {u : Underway} {t : Token}, f'.underway = f.underway ++ new →
      u ∈ f'.worksOn s → u.pending.engine? = some t → u ∈ f.worksOn s := by
    intro f f' u t hunderway hu htoken
    rw [hworks hunderway] at hu
    rcases List.mem_append.mp hu with hu | hu
    · exact hu
    · obtain ⟨a, rfl⟩ := hnew u (List.mem_of_mem_filter hu)
      cases htoken
  refine ⟨hdesk, ?_, ?_, fun u hu v hv t t' htoken htoken' => ?_⟩
  · rw [hstore.1, hstore.2, h.store]
  · rw [hworks hf, hworks hg]
    refine List.rel_append h.works (List.forall₂_same.mpr fun u hu => ?_)
    obtain ⟨a, rfl⟩ := hnew u (List.mem_of_mem_filter hu)
    exact .waits a
  · rw [htripped.1, htripped.2]
    exact h.tripped u (hold hf hu htoken) v (hold hg hv htoken') t t' htoken htoken'

/-- The work on a session after it went on as `new`, or ended. -/
theorem InOrder.worksOn_replace (h : f.InOrder) {u : Underway} {before new after : List Underway}
    (hu : f.underway = before ++ u :: after) (hsession : u.activity.session = s)
    (hf : f'.underway = before ++ new ++ after) (hnew : ∀ v ∈ new, v.activity.session = s) :
    f'.worksOn s = new := by
  subst hsession
  obtain ⟨-, hbefore, hafter⟩ := h.worksOn_split hu
  have hself : (new.filter fun v => decide (v.activity.session = u.activity.session)) = new :=
    List.filter_eq_self.mpr fun v hv => decide_eq_true (hnew v hv)
  rw [worksOn, hf, List.filter_append, List.filter_append, hbefore, hafter, hself,
    List.append_nil, List.nil_append]

/-- The work on a session goes on alike on both sides, or ends. -/
theorem Mirrors.replace (hf : f.InOrder) (hg : g.InOrder) {u v : Underway}
    {before after before' after' new new' : List Underway}
    (hu : f.underway = before ++ u :: after) (hus : u.activity.session = s)
    (hv : g.underway = before' ++ v :: after') (hvs : v.activity.session = s)
    (hf' : f'.underway = before ++ new ++ after) (hg' : g'.underway = before' ++ new' ++ after')
    (hsession : ∀ w ∈ new, w.activity.session = s)
    (hsession' : ∀ w ∈ new', w.activity.session = s)
    (hnew : List.Forall₂ (Underway.Mirrors view) new new')
    (hdesk : f'.desk.Mirrors view s g'.desk)
    (hstore : g'.store s = (f'.store s).map (Snapshot.retime view))
    (htripped : ∀ u ∈ new, ∀ v ∈ new', ∀ t t', u.pending.engine? = some t →
      v.pending.engine? = some t' → (t' ∈ g'.tripped ↔ t ∈ f'.tripped)) :
    f'.Mirrors view s g' := by
  have hworks := hf.worksOn_replace hu hus hf' hsession
  have hworks' := hg.worksOn_replace hv hvs hg' hsession'
  refine ⟨hdesk, hstore, ?_, ?_⟩
  · rw [hworks, hworks']
    exact hnew
  · rw [hworks, hworks']
    exact htripped

/-! ## Steps of work -/

/-- What was done on two floors was done alike: the floors show the same of a session, and the same
was seen. -/
structure GoAlike (view : Instant → Instant) (s : SessionId) (r r' : List Sight × Floor) :
    Prop where
  floors : r.2.Mirrors view s r'.2
  sights : r'.1.map (Sight.blur id) = r.1.map (Sight.blur view)

theorem sights_noted {entries entries' : List Entry}
    (h : entries'.map (Entry.blur id) = entries.map (Entry.blur view)) :
    (entries'.map Sight.noted).map (Sight.blur id) =
      (entries.map Sight.noted).map (Sight.blur view) := by
  have hnoted : ∀ (view : Instant → Instant) (entries : List Entry),
      (entries.map Sight.noted).map (Sight.blur view) =
        (entries.map (Entry.blur view)).map Sight.noted := by
    intro view entries
    rw [List.map_map, List.map_map]
    rfl
  rw [hnoted, hnoted, h]

/-- Two activities that get what they waited for go on alike. A fresh token is tripped on neither
side. -/
theorem goAlike_advanceSeen (hf : f.InOrder) (hg : g.InOrder) (hsetup : setup.Respects view)
    (answer answer' : Answer) {u v : Underway} {before after before' after' : List Underway}
    (h : f.Mirrors view s g)
    (hu : f.underway = before ++ u :: after) (hus : u.activity.session = s)
    (hv : g.underway = before' ++ v :: after') (hvs : v.activity.session = s)
    (hcourse : (u.activity.advance ⟨f.nextToken⟩ answer f.desk).1.Mirrors view s ⟨f.nextToken⟩
      ⟨g.nextToken⟩ (v.activity.advance ⟨g.nextToken⟩ answer' g.desk).1)
    (hdesk : (u.activity.advance ⟨f.nextToken⟩ answer f.desk).2.Mirrors view s
      (v.activity.advance ⟨g.nextToken⟩ answer' g.desk).2) :
    GoAlike view s (f.advanceSeen setup u.activity answer (before, after))
      (g.advanceSeen setup v.activity answer' (before', after')) := by
  obtain ⟨hsession, hsession'⟩ := hcourse.session setup
  have hfresh : ∀ {f : Floor}, f.InOrder → (⟨f.nextToken⟩ : Token) ∉ f.tripped :=
    fun hf htripped => Nat.lt_irrefl _ (hf.tokens.tripped _ htripped)
  constructor
  · refine Mirrors.settle (Mirrors.replace hf hg hu hus hv hvs rfl rfl hsession hsession'
      (hcourse.underway hsetup) hdesk h.store ?_)
    intro w hw w' hw' t t' htoken htoken'
    rw [Course.engine_of_mem hw htoken, Course.engine_of_mem hw' htoken']
    exact iff_of_false (hfresh hg) (hfresh hf)
  · have htold : ∀ (view : Instant → Instant) (c : Course),
        c.sights.map (Sight.blur view) = c.sights := by
      intro view c
      cases c <;> rfl
    unfold advanceSeen
    rw [List.map_append, List.map_append, htold, htold, hcourse.sights_eq]
    exact congrArg (· ++ _) (sights_noted (hcourse.entries_eq h.desk))

theorem sessionOf_retime (id : SessionId) (snapshot : Option Snapshot) :
    Activity.sessionOf id (snapshot.map (Snapshot.retime view)) =
      (Activity.sessionOf id snapshot).retime view := by
  cases snapshot with
  | none => rfl
  | some snapshot => exact Session.ofSnapshot_retime view id snapshot

/-- A session that was looked up is run or wiped, or the failure is told, on both sides. -/
theorem mirrors_loaded {a : Activity} {result : Except StoreError (Option Snapshot)} {d e : Desk}
    (hd : d.Mirrors view s e) (hsession : a.session = s)
    (hfits : Underway.Fits ⟨a, .found result⟩) (t t' : Token) :
    (a.advance t (.loaded result) d).1.Mirrors view s t t'
        (a.advance t' (.loaded (result.map (Option.map (Snapshot.retime view)))) e).1 ∧
      (a.advance t (.loaded result) d).2.Mirrors view s
        (a.advance t' (.loaded (result.map (Option.map (Snapshot.retime view)))) e).2 := by
  cases hfits with
  | @loaded id worker prompt _ hw =>
      obtain rfl := hsession
      cases result with
      | error e => exact mirrors_afterPrompt hd worker (.loading prompt) (.loading prompt) _
      | ok snapshot =>
          refine ⟨?_, hd.congr ⟨rfl, rfl⟩ ⟨rfl, rfl⟩⟩
          show (Course.goesOn _ _).Mirrors view _ t t' (.goesOn _ (.run (Activity.sessionOf _
            (snapshot.map (Snapshot.retime view))) prompt t'))
          rw [sessionOf_retime]
          exact .runs worker _ prompt
  | loadedToWipe id =>
      obtain rfl := hsession
      cases result with
      | error e => exact ⟨.ended _, hd.handOff⟩
      | ok snapshot =>
          refine ⟨?_, hd⟩
          show (Course.goesOn _ _).Mirrors view _ t t' (.goesOn _ (.wipe (Activity.sessionOf _
            (snapshot.map (Snapshot.retime view)))))
          rw [sessionOf_retime]
          exact .wipes .wiper _

theorem answered_desk (f : Floor) (token : Token) (id : SessionId) (question : Ask)
    (answer : question.Answer) :
    (f.answered token id question answer).2.desk = f.desk ∧
      (f.answered token id question answer).2.tripped = f.tripped := by
  unfold answered
  split
  · exact ⟨rfl, rfl⟩
  · exact ⟨rfl, rfl⟩

/-- A save is noted and done on both sides, or on neither. -/
theorem answered_retime (hstore : g.store s = (f.store s).map (Snapshot.retime view))
    (token token' : Token) (question : Ask) (answer : question.Answer) :
    (g.answered token' s (question.retime view) (question.carry view answer)).1.map
          (Entry.blur id) =
        (f.answered token s question answer).1.map (Entry.blur view) ∧
      (g.answered token' s (question.retime view) (question.carry view answer)).2.store s =
        ((f.answered token s question answer).2.store s).map (Snapshot.retime view) := by
  cases question with
  | save snapshot =>
      cases answer with
      | ok done =>
          constructor
          · show [Entry.saved _ s ((snapshot.retime view).retime id)] = _
            rw [Snapshot.retime_id]
            rfl
          · show (if s = s then some (snapshot.retime view) else g.store s) =
              (if s = s then some snapshot else f.store s).map _
            rw [if_pos rfl, if_pos rfl]
            rfl
      | error e => exact ⟨rfl, hstore⟩
  | now | isCancelled | chat | consult | summarize | check | confirm | execute | review | report
  | warn => exact ⟨rfl, hstore⟩

/-- A question is answered alike, and the engine goes on with the answer. -/
theorem goAlike_answer (hf : f.InOrder) (hg : g.InOrder) (ho : o.Respects view)
    (now : Instant) {a b : Activity} {token token' : Token} {question : Ask}
    {next : question.Answer → Dialogue Answer}
    {next' : (question.retime view).Answer → Dialogue Answer}
    {before after before' after' : List Underway} (h : f.Mirrors view s g)
    (hu : f.underway = before ++ ⟨a, .engine token (.ask question next)⟩ :: after)
    (ha : a.session = s)
    (hv : g.underway = before' ++ ⟨b, .engine token' (.ask (question.retime view) next')⟩ :: after')
    (hb : b.session = s)
    (hnext : ∀ answer, Underway.Mirrors view ⟨a, .engine token (next answer)⟩
      ⟨b, .engine token' (next' (question.carry view answer))⟩) :
    GoAlike view s
      (goOn setup o now f ⟨a, .engine token (.ask question next)⟩ (before, after))
      (goOn setup o (view now) g ⟨b, .engine token' (.ask (question.retime view) next')⟩
        (before', after')) := by
  have hmem : ⟨a, .engine token (.ask question next)⟩ ∈ f.worksOn s :=
    mem_worksOn.mpr ⟨mem_of_split hu, ha⟩
  have hmem' : ⟨b, .engine token' (.ask (question.retime view) next')⟩ ∈ g.worksOn s :=
    mem_worksOn.mpr ⟨mem_of_split hv, hb⟩
  -- what the engine hears depends on its token, which is tripped on both sides or on neither
  have htripped : token' ∈ g.tripped ↔ token ∈ f.tripped :=
    h.tripped _ hmem _ hmem' token token' rfl rfl
  have hanswer : o.answer b.session (g.tripped.contains token') (view now) (question.retime view) =
      question.carry view (o.answer a.session (f.tripped.contains token) now question) := by
    rw [List.contains_eq_mem, List.contains_eq_mem, decide_eq_decide.mpr htripped, hb, ← ha,
      ho.answer]
  unfold goOn
  dsimp only
  rw [hanswer]
  generalize o.answer a.session (f.tripped.contains token) now question = answer
  rw [ha, hb]
  obtain ⟨hentries, hstore⟩ := answered_retime h.store token token' question answer
  obtain ⟨hdesk, htrips⟩ := f.answered_desk token s question answer
  obtain ⟨hdesk', htrips'⟩ :=
    g.answered_desk token' s (question.retime view) (question.carry view answer)
  have hsession : ∀ (c : Activity) (pending : Pending), c.session = s →
      ∀ w ∈ [(⟨c, pending⟩ : Underway)], w.activity.session = s := by
    intro c pending hc w hw
    rw [List.mem_singleton.mp hw]
    exact hc
  constructor
  · refine Mirrors.replace hf hg hu ha hv hb (List.append_cons _ _ _) (List.append_cons _ _ _)
      (hsession a _ ha) (hsession b _ hb) (.cons (hnext answer) .nil) ?_ hstore ?_
    · dsimp only
      rw [hdesk, hdesk']
      exact h.desk
    · intro w hw w' hw' t t' htoken htoken'
      rw [List.mem_singleton.mp hw] at htoken
      rw [List.mem_singleton.mp hw'] at htoken'
      cases htoken
      cases htoken'
      dsimp only
      rw [htrips, htrips']
      exact htripped
  · have hpublished : ((question.retime view).sights).map (Sight.blur id) =
        question.sights.map (Sight.blur view) := by
      cases question <;> rfl
    rw [List.map_append, List.map_append, hpublished]
    exact congrArg (· ++ _) (sights_noted hentries)

/-- The work on a session takes its next step on both sides. -/
theorem goAlike_goOn (hf : f.InOrder) (hg : g.InOrder) (hsetup : setup.Respects view)
    (ho : o.Respects view) (now : Instant) {u v : Underway}
    {before after before' after' : List Underway} (h : f.Mirrors view s g)
    (hmirrors : u.Mirrors view v) (hu : f.underway = before ++ u :: after)
    (hus : u.activity.session = s)
    (hv : g.underway = before' ++ v :: after') (hvs : v.activity.session = s) :
    GoAlike view s (goOn setup o now f u (before, after))
      (goOn setup o (view now) g v (before', after')) := by
  have hfits := hf.leases.fits u (mem_of_split hu)
  cases hmirrors with
  | opening id =>
      obtain rfl : id = s := hus
      obtain ⟨hcourse, hdesk⟩ := mirrors_takeNext h.desk .drain .opening .opening
      exact goAlike_advanceSeen hf hg hsetup .ready .ready h hu rfl hv rfl hcourse hdesk
  | waits a =>
      have hfound : Pending.found (o.load a.session (g.store a.session)) = .found
          ((o.load a.session (f.store a.session)).map (Option.map (Snapshot.retime view))) := by
        rw [hus, h.store, Oracle.load_retime]
      have hsession : ∀ pending, ∀ w ∈ [(⟨a, pending⟩ : Underway)], w.activity.session = s := by
        intro pending w hw
        rw [List.mem_singleton.mp hw]
        exact hus
      refine ⟨?_, rfl⟩
      refine Mirrors.replace hf hg hu hus hv hvs (List.append_cons _ _ _) (List.append_cons _ _ _)
        (hsession _) (hsession _) (.cons ?_ .nil) h.desk h.store ?_
      · rw [hfound]
        exact .found a _
      · intro w hw w' hw' t t' htoken
        rw [List.mem_singleton.mp hw] at htoken
        cases htoken
  | found a result =>
      obtain ⟨hcourse, hdesk⟩ := mirrors_loaded h.desk hus hfits ⟨f.nextToken⟩ ⟨g.nextToken⟩
      exact goAlike_advanceSeen hf hg hsetup _ _ h hu hus hv hvs hcourse hdesk
  | runs id worker t t' hrest =>
      obtain rfl : id = s := hus
      cases hrest with
      | ask hnext =>
          exact goAlike_answer hf hg ho now h hu rfl hv rfl fun answer =>
            .runs id worker t t' (hnext answer)
      | done answer =>
          -- the engine yields the result of its run
          cases hfits with
          | running _ _ _ hyields =>
              obtain ⟨result, rfl⟩ := hyields
              have hdesk : (f.desk.unregister id).Mirrors view id (g.desk.unregister id) :=
                h.desk.congr ⟨rfl, rfl⟩ ⟨rfl, rfl⟩
              obtain ⟨hcourse, hdesk⟩ :=
                mirrors_afterPrompt hdesk worker (.running t) (.running t') result
              exact goAlike_advanceSeen hf hg hsetup (.ran result) (.ran result) h hu rfl hv rfl
                hcourse hdesk
  | wipes id worker t t' hrest =>
      obtain rfl : id = s := hus
      cases hrest with
      | ask hnext =>
          exact goAlike_answer hf hg ho now h hu rfl hv rfl fun answer =>
            .wipes id worker t t' (hnext answer)
      | done answer =>
          cases hfits with
          | wiping _ _ hyields =>
              obtain ⟨result, rfl⟩ := hyields
              exact goAlike_advanceSeen hf hg hsetup (.wiped result) (.wiped result) h hu rfl hv rfl
                (.ended (.wiped result)) h.desk.handOff

/-! ## Operations -/

theorem InOrder.worksOn_cases (h : f.InOrder) (s : SessionId) :
    f.worksOn s = [] ∨ ∃ u, f.worksOn s = [u] := by
  cases hworks : f.worksOn s with
  | nil => exact .inl rfl
  | cons u rest =>
      have hu : u ∈ f.worksOn s := by
        rw [hworks]
        exact List.mem_cons_self
      obtain ⟨hmem, rfl⟩ := mem_worksOn.mp hu
      obtain ⟨before, after, hsplit⟩ := List.append_of_mem hmem
      exact .inr ⟨u, hworks.symm.trans (h.worksOn_split hsplit).1⟩

theorem InOrder.running?_iff (h : f.InOrder) (s : SessionId) (token : Token) :
    f.desk.running? s = some token ↔ ∃ u ∈ f.worksOn s, u.activity.stage = .running token := by
  rw [h.tokens.running]
  simp only [mem_worksOn, and_assoc]

/-- There is work on a session on both sides, which has come as far, or on neither. -/
theorem Mirrors.works_cases (h : f.Mirrors view s g) (hf : f.InOrder) :
    (f.worksOn s = [] ∧ g.worksOn s = []) ∨
      ∃ u v, f.worksOn s = [u] ∧ g.worksOn s = [v] ∧ u.Mirrors view v := by
  have hworks := h.works
  rcases hf.worksOn_cases s with hnil | ⟨u, hone⟩
  · rw [hnil, List.forall₂_nil_left_iff] at hworks
    exact .inl ⟨hnil, hworks⟩
  · rw [hone] at hworks
    obtain ⟨v, rest, huv, hrest, hg⟩ := List.forall₂_cons_left_iff.mp hworks
    rw [List.forall₂_nil_left_iff] at hrest
    subst hrest
    exact .inr ⟨u, v, hone, hg, huv⟩

theorem goAlike_atWork (hf : f.InOrder) (hg : g.InOrder) (h : f.Mirrors view s g)
    {step step' : Underway → List Underway × List Underway → List Sight × Floor}
    (hstep : ∀ u before after v before' after', f.underway = before ++ u :: after →
      u.activity.session = s → g.underway = before' ++ v :: after' → v.activity.session = s →
      u.Mirrors view v → GoAlike view s (step u (before, after)) (step' v (before', after'))) :
    GoAlike view s (f.atWork s step) (g.atWork s step') := by
  rcases f.atWork_cases s step with ⟨hnil, heq⟩ | ⟨u, before, after, hu, hus, heq⟩
  · rcases g.atWork_cases s step' with ⟨-, heq'⟩ | ⟨v, before', after', hv, hvs, -⟩
    · rw [heq, heq']
      exact ⟨h, rfl⟩
    · have hworks := h.works
      rw [hnil, ← hvs, (hg.worksOn_split hv).1] at hworks
      cases hworks
  · have hworks := h.works
    have hone : f.worksOn s = [u] := by
      rw [← hus]
      exact (hf.worksOn_split hu).1
    rcases g.atWork_cases s step' with ⟨hnil', -⟩ | ⟨v, before', after', hv, hvs, heq'⟩
    · rw [hone, hnil'] at hworks
      cases hworks
    · have hone' : g.worksOn s = [v] := by
        rw [← hvs]
        exact (hg.worksOn_split hv).1
      rw [hone, hone', List.forall₂_cons] at hworks
      rw [heq, heq']
      exact hstep u before after v before' after' hu hus hv hvs hworks.1

theorem goAlike_receive (m : QueuedMessage) (queueIfBusy : Bool)
    (h : f.Mirrors view m.sessionId g) :
    GoAlike view m.sessionId (f.perform setup o (.receive m queueIfBusy))
      (g.perform setup o (.receive (m.blur view) queueIfBusy)) := by
  obtain ⟨hadmission, hdesk⟩ := h.desk.receive queueIfBusy
  have hentries : ∀ admission : Admission,
      ((admission.blur view).entries (m.blur view)).map (Entry.blur id) =
        (admission.entries m).map (Entry.blur view) := by
    intro admission
    cases admission <;> rfl
  have hadmitted : admitted (m.blur view) (g.desk.receive (m.blur view) queueIfBusy).1 =
      admitted m (f.desk.receive m queueIfBusy).1 := by
    rw [hadmission]
    cases (f.desk.receive m queueIfBusy).1 <;> rfl
  -- work comes in only where the lease was granted, and it has to be loaded
  have hnew : ∀ u ∈ admitted m (f.desk.receive m queueIfBusy).1,
      ∃ a : Activity, u = ⟨a, .load⟩ := by
    intro u hu
    cases hadm : (f.desk.receive m queueIfBusy).1 with
    | granted =>
        rw [hadm] at hu
        exact ⟨_, List.mem_singleton.mp hu⟩
    | busy | full | queued =>
        rw [hadm] at hu
        cases hu
  constructor
  · refine Mirrors.settle (Mirrors.more h hnew rfl ?_ hdesk ⟨rfl, rfl⟩ ⟨rfl, rfl⟩)
    exact congrArg (g.underway ++ ·) hadmitted
  · refine sights_noted ?_
    show ((g.desk.receive (m.blur view) queueIfBusy).1.entries (m.blur view)).map _ =
      ((f.desk.receive m queueIfBusy).1.entries m).map _
    rw [hadmission]
    exact hentries _

theorem goAlike_wipe (h : f.Mirrors view s g) :
    GoAlike view s ([.begun (!f.desk.queue.isBusy s)], f.wipe s)
      ([.begun (!g.desk.queue.isBusy s)], g.wipe s) := by
  rw [Floor.wipe, Floor.wipe, Desk.lease?_eq, Desk.lease?_eq, h.desk.busy]
  by_cases hbusy : f.desk.queue.isBusy s = true
  · rw [if_pos hbusy, if_pos hbusy]
    exact ⟨h, rfl⟩
  · rw [if_neg hbusy, if_neg hbusy]
    have hnew : ∀ u ∈ [(⟨.wiper s, .load⟩ : Underway)], ∃ a : Activity, u = ⟨a, .load⟩ :=
      fun u hu => ⟨_, List.mem_singleton.mp hu⟩
    exact ⟨Mirrors.more h hnew rfl rfl h.desk.leased ⟨rfl, rfl⟩ ⟨rfl, rfl⟩, rfl⟩

theorem goAlike_clear (h : f.Mirrors view s g) :
    GoAlike view s (f.perform setup o (.clear s)) (g.perform setup o (.clear s)) := by
  refine ⟨⟨h.desk.clearBacklog, h.store, h.works, h.tripped⟩, sights_noted ?_⟩
  show ((g.desk.queue.waiting s).map _).map _ = ((f.desk.queue.waiting s).map _).map _
  rw [h.desk.waiting, List.map_map, List.map_map, List.map_map]
  rfl

/-- The same work is found running on both sides, with its engine, or none is. -/
theorem Mirrors.running_cases (h : f.Mirrors view s g) (hf : f.InOrder) (hg : g.InOrder) :
    (f.desk.running? s = none ∧ g.desk.running? s = none) ∨
      ∃ u v t t', f.worksOn s = [u] ∧ g.worksOn s = [v] ∧ f.desk.running? s = some t ∧
        g.desk.running? s = some t' ∧ u.pending.engine? = some t ∧
        v.pending.engine? = some t' := by
  have hnone : ∀ {f : Floor}, f.InOrder →
      (∀ u ∈ f.worksOn s, ∀ t, u.activity.stage ≠ .running t) → f.desk.running? s = none := by
    intro f hf hidle
    rw [Option.eq_none_iff_forall_ne_some]
    intro t hrunning
    obtain ⟨u, hu, hstage⟩ := (hf.running?_iff s t).mp hrunning
    exact hidle u hu t hstage
  have hsome : ∀ {f : Floor} {u : Underway} {t : Token}, f.InOrder → u ∈ f.worksOn s →
      u.activity.stage = .running t → f.desk.running? s = some t :=
    fun hf hu hstage => (hf.running?_iff s _).mpr ⟨_, hu, hstage⟩
  -- who is running can be told from how far the work has come
  rcases h.works_cases hf with ⟨hnil, hnil'⟩ | ⟨u, v, hone, hone', hmirrors⟩
  · refine .inl ⟨hnone hf ?_, hnone hg ?_⟩
    · rw [hnil]
      exact fun u hu => (nomatch hu)
    · rw [hnil']
      exact fun v hv => (nomatch hv)
  · have hu : u ∈ f.worksOn s := by
      rw [hone]
      exact List.mem_singleton_self u
    have hv : v ∈ g.worksOn s := by
      rw [hone']
      exact List.mem_singleton_self v
    rcases hmirrors.stage_cases (hf.leases.fits u (mem_worksOn.mp hu).1) with
        ⟨hidle, hidle'⟩ | ⟨t, t', hstage, hstage', hengine, hengine'⟩
    · refine .inl ⟨hnone hf ?_, hnone hg ?_⟩
      · rw [hone, List.forall_mem_singleton]
        exact hidle
      · rw [hone', List.forall_mem_singleton]
        exact hidle'
    · exact .inr ⟨u, v, t, t', hone, hone', hsome hf hu hstage, hsome hg hv hstage', hengine,
        hengine'⟩

/-- A cancellation finds a run on both sides, and trips the token of its engine, or on neither. -/
theorem goAlike_cancel (hf : f.InOrder) (hg : g.InOrder) (h : f.Mirrors view s g) :
    GoAlike view s ([.found (f.desk.running? s).isSome], f.cancel s)
      ([.found (g.desk.running? s).isSome], g.cancel s) := by
  rcases h.running_cases hf hg with ⟨hnone, hnone'⟩ |
      ⟨u, v, t, t', hone, hone', hrunning, hrunning', hengine, hengine'⟩
  · rw [Floor.cancel, Floor.cancel, hnone, hnone']
    exact ⟨⟨h.desk, h.store, h.works, h.tripped⟩, rfl⟩
  · rw [Floor.cancel, Floor.cancel, hrunning, hrunning']
    refine ⟨⟨h.desk, h.store, h.works, fun w hw w' hw' x x' htoken htoken' => ?_⟩, rfl⟩
    have hw : w ∈ f.worksOn s := hw
    have hw' : w' ∈ g.worksOn s := hw'
    rw [hone, List.mem_singleton] at hw
    rw [hone', List.mem_singleton] at hw'
    subst hw hw'
    obtain rfl : t = x := Option.some.inj (hengine.symm.trans htoken)
    obtain rfl : t' = x' := Option.some.inj (hengine'.symm.trans htoken')
    exact iff_of_true List.mem_cons_self List.mem_cons_self

theorem goAlike_cut (hf : f.InOrder) (hg : g.InOrder) {u v : Underway}
    {before after before' after' : List Underway} (h : f.Mirrors view s g)
    (hmirrors : u.Mirrors view v) (hu : f.underway = before ++ u :: after)
    (hus : u.activity.session = s) (hv : g.underway = before' ++ v :: after')
    (hvs : v.activity.session = s) :
    GoAlike view s ([], f.abandon u.activity (before, after))
      ([], g.abandon v.activity (before', after')) := by
  have hrest : ∀ before after : List Underway, before ++ after = before ++ [] ++ after := by
    intro before after
    rw [List.append_nil]
  refine ⟨Mirrors.settle ?_, rfl⟩
  refine Mirrors.replace hf hg hu hus hv hvs (hrest _ _) (hrest _ _) ?_ ?_ .nil
    (mirrors_abandon h.desk hus hvs hmirrors.worker) h.store ?_
  · exact fun w hw => (nomatch hw)
  · exact fun w hw => (nomatch hw)
  · exact fun w hw => (nomatch hw)

/-- **An operation is done alike** for its session on floors that mirror each other. -/
theorem goAlike_perform (hf : f.InOrder) (hg : g.InOrder) (hsetup : setup.Respects view)
    (ho : o.Respects view) (op : Op) (h : f.Mirrors view op.session g) :
    GoAlike view op.session (f.perform setup o op) (g.perform setup o (op.blur view)) := by
  cases op with
  | receive m queueIfBusy => exact goAlike_receive m queueIfBusy h
  | wipe s => exact goAlike_wipe h
  | clear s => exact goAlike_clear h
  | cancel s => exact goAlike_cancel hf hg h
  | goOn s now =>
      exact goAlike_atWork hf hg h fun u before after v before' after' hu hus hv hvs hmirrors =>
        goAlike_goOn hf hg hsetup ho now h hmirrors hu hus hv hvs
  | cut s =>
      have hcut : GoAlike view s (f.atWork s fun u others => ([], f.abandon u.activity others))
          (g.atWork s fun v others => ([], g.abandon v.activity others)) :=
        goAlike_atWork hf hg h fun u before after v before' after' hu hus hv hvs hmirrors =>
          goAlike_cut hf hg h hmirrors hu hus hv hvs
      exact hcut

end

end Floor

end AgentSessions
