import Parlor.Proofs.Game.Grace
import Parlor.Proofs.Game.Instances

/-!
# The clock of a server

What a cluster does while its clock goes on, for one server without sockets and without anybody who takes
messages from the bus. It carries out the forfeits of the server as they come due, one after the other.
So what a cluster makes of any stimuli is their course at the hub of the server.
-/

namespace Parlor

open Game
open Text (Nanos)

/-! ## A bus that nobody listens to -/

/-- Where nobody has subscribed, nothing is collected. -/
theorem Wiring.collect_of_unheard {s : Shared} (h : s.bus.Unheard) (ids : List Bus.SubscriptionId) :
    collect s ids = (s, []) := by
  induction ids with
  | nil => rfl
  | cons id rest ih =>
    have hread : s.bus.read id = (s.bus, []) := by
      rw [Bus.MemoryBus.read, show s.bus.subscriptions = [] from h]
      rfl
    rw [collect, hread]
    simp only [ih, List.append_nil]

/-- Where nobody has subscribed, nothing is pulled. -/
theorem Wiring.pull_of_unheard {s : Shared} (h : s.bus.Unheard) (w : Wiring) (receive : Shared → Bus.Message → Shared) :
    w.pull receive s = s := by
  rw [pull, collect_of_unheard h]
  rfl

/-- Where nobody has subscribed, a server takes nothing from the bus. -/
theorem Server.pull_of_unheard {s : Shared} (h : s.bus.Unheard) (v : Server) : v.pull s = s := by
  rw [pull, Chat.Hub.pull, Game.Hub.pull, Signaling.Hub.pull]
  iterate 4 rw [Wiring.pull_of_unheard h]

/-! ## One forfeit after the other -/

namespace Game

namespace Site

/-- The forfeits that are due by a moment are carried out, the first of them first. -/
inductive Expires (moment : Nanos) (clock : String) : Site → Site → Prop
  | done {t : Site} (quiet : ∀ f ∈ t.hub.forfeits, moment < f.due) : Expires moment clock t t
  | next {t t' : Site} {f : Forfeit} (first : t.hub.nextForfeit? = some f) (due : f.due ≤ moment)
      (rest : Expires moment clock (t.run [.pass f.due clock, .expire f]) t') : Expires moment clock t t'

/-- Nothing is due by a moment, or the first forfeit is, and is carried out. -/
theorem Expires.quiet_or {moment : Nanos} {clock : String} {t t' : Site} (h : Expires moment clock t t') :
    (t' = t ∧ ∀ f ∈ t.hub.forfeits, moment < f.due) ∨
      ∃ f, t.hub.nextForfeit? = some f ∧ f.due ≤ moment ∧
        Expires moment clock (t.run [.pass f.due clock, .expire f]) t' := by
  cases h with
  | done hquiet => exact .inl ⟨rfl, hquiet⟩
  | next hfirst hdue hrest => exact .inr ⟨_, hfirst, hdue, hrest⟩

/-- What is due by a moment is carried out by the happenings that are listed for it. -/
theorem OnTime.expires {t : Site} {grace : Nanos} (h : t.OnTime grace) (moment : Nanos) (clock : String) {n : Nat}
    (hn : t.hub.forfeits.length ≤ n) : Expires moment clock t (t.run (t.expiries moment clock n)) := by
  induction n generalizing t with
  | zero =>
    have hnone : t.hub.forfeits = [] := List.eq_nil_of_length_eq_zero (Nat.le_zero.mp hn)
    exact .done (by simp [hnone])
  | succ n ih =>
    rcases t.hub.nextForfeit?_cases with ⟨hnone, hnext⟩ | ⟨f, hf, hnext, hfirst⟩
    · simp only [expiries, hnext]
      exact .done (by simp [hnone])
    · by_cases hdue : f.due ≤ moment
      · have hexpiry := h.expiry clock hf hfirst
        simp only [expiries, hnext, if_pos hdue]
        refine .next hnext hdue (ih hexpiry.onTime ?_)
        rw [hexpiry.forfeits, List.length_erase_of_mem hf]
        omega
      · simp only [expiries, hnext, if_neg hdue]
        exact .done fun g hg => (not_le.mp hdue).trans_le (hfirst g hg)

/-- What is due by a later moment goes on where what is due by an earlier one has ended. -/
theorem Expires.split {moment later : Nanos} {clock : String} {t t₁ t₂ : Site} (h : Expires moment clock t t₁)
    (hlater : moment ≤ later) (h₂ : Expires later clock t t₂) : Expires later clock t₁ t₂ := by
  induction h with
  | done => exact h₂
  | @next t t' f hfirst hdue _ ih =>
    cases h₂ with
    | done hquiet =>
      exact absurd (hquiet f (Hub.first_of_nextForfeit? hfirst).1) (not_lt.mpr (hdue.trans hlater))
    | next hfirst' _ hrest =>
      rw [hfirst, Option.some.injEq] at hfirst'
      subst hfirst'
      exact ih hrest

/-- Time may pass up to the first forfeit before it is carried out. -/
theorem Expires.waited {moment : Nanos} {clock : String} {t t' : Site} (h : Expires moment clock t t') {f : Forfeit}
    (hfirst : t.hub.nextForfeit? = some f) (hdue : f.due ≤ moment) :
    Expires moment clock (t.meet (.pass f.due clock)) t' := by
  cases h with
  | done hquiet => exact absurd (hquiet f (Hub.first_of_nextForfeit? hfirst).1) (not_lt.mpr hdue)
  | next hfirst' hdue' hrest =>
    rw [hfirst, Option.some.injEq] at hfirst'
    subst hfirst'
    exact .next hfirst hdue' hrest

/-- A hub over a bus that nobody listens to, on time, with the clock of its store at some time. -/
structure Steady (t : Site) (grace : Nanos) (clock : String) : Prop where
  onTime : t.OnTime grace
  unheard : t.shared.bus.Unheard
  ticked : t.store.clock = clock

/-- A hub stays steady when the first forfeit is carried out. -/
theorem Steady.expiry {t : Site} {grace : Nanos} {clock : String} (h : t.Steady grace clock) {f : Forfeit}
    (hfirst : t.hub.nextForfeit? = some f) : (t.run [.pass f.due clock, .expire f]).Steady grace clock := by
  obtain ⟨hf, hleast⟩ := Hub.first_of_nextForfeit? hfirst
  have hexpiry := h.onTime.expiry clock hf hleast
  have hwaited := h.onTime.meet hexpiry.pass
  exact ⟨hexpiry.onTime, (meet_instant hwaited.responsive (e := .expire f) (by simp) (by simp)).unheard h.unheard,
    hexpiry.ticked⟩

/-- A hub stays steady while what is due is carried out, and no forfeit is armed meanwhile. -/
theorem Steady.expires {t t' : Site} {grace moment : Nanos} {clock : String} (h : t.Steady grace clock)
    (hexpires : Expires moment clock t t') (hnow : t.shared.now ≤ moment) :
    t'.Steady grace clock ∧ t'.shared.now ≤ moment ∧ t'.hub.forfeits.length ≤ t.hub.forfeits.length := by
  induction hexpires with
  | done => exact ⟨h, hnow, le_rfl⟩
  | @next t t' f hfirst hdue _ ih =>
    obtain ⟨hf, hleast⟩ := Hub.first_of_nextForfeit? hfirst
    have hexpiry := h.onTime.expiry clock hf hleast
    obtain ⟨hsteady, hnow', hlength⟩ := ih (h.expiry hfirst) (hexpiry.now.trans_le hdue)
    rw [hexpiry.forfeits] at hlength
    exact ⟨hsteady, hnow', hlength.trans List.length_erase_le⟩

end Site

end Game

namespace Cluster

/-! ## One server -/

/-- A cluster with one server, whose hub for games and what it shares are those of a site. -/
def hold (c : Cluster) (v : Server) (t : Site) : Cluster :=
  { c with servers := [{ v with games := t.hub }], shared := t.shared }

variable {c : Cluster} {v : Server} {t : Site}

/-- The forfeit that is due first is that of the hub. -/
theorem firstForfeit?_hold : (c.hold v t).firstForfeit? = t.hub.nextForfeit?.map (0, ·) := by
  have hforfeits : (c.hold v t).forfeits = t.hub.forfeits.map (0, ·) := by simp [forfeits, hold]
  rw [firstForfeit?, hforfeits, List.foldl_map, Hub.nextForfeit?]
  change List.foldl _ ((none : Option Forfeit).map ((0, ·) : Forfeit → Nat × Forfeit)) _ = _
  refine List.foldl_hom (Option.map ((0, ·) : Forfeit → Nat × Forfeit)) fun best f => ?_
  cases best with
  | none => rfl
  | some b =>
    simp only [Option.map_some, Forfeit.first]
    split <;> rfl

/-- The clock moves on as time passes at the hub. -/
theorem moveTo_hold {moment : Nanos} (h : t.shared.now ≤ moment) :
    (c.hold v t).moveTo moment = c.hold v (t.meet (.pass moment t.store.clock)) := by
  have hnow : max moment (c.hold v t).shared.now = moment := Nat.max_eq_left h
  rw [moveTo, hnow]
  rfl

/-- Without sockets, what is due next is a forfeit. -/
theorem nextDue?_hold (hc : c.sessions = []) : (c.hold v t).nextDue? = t.hub.nextForfeit?.map (·.due) := by
  rw [nextDue?, firstForfeit?_hold, hold]
  simp only [hc, Table.values, List.map_nil, List.foldl_nil]
  cases t.hub.nextForfeit? <;> rfl

/-- A round without sockets carries out a forfeit that is due. -/
theorem settleIn_succ_hold (hc : c.sessions = []) (hbus : t.shared.bus.Unheard) (fuel : Nat) :
    settleIn (fuel + 1) (c.hold v t) =
      match t.hub.nextForfeit? with
      | some f => if f.due ≤ t.shared.now then settleIn fuel (c.hold v (t.meet (.expire f))) else c.hold v t
      | none => c.hold v t := by
  have hpull : (c.hold v t).pull = c.hold v t := by
    simp only [pull, hold, List.foldl_cons, List.foldl_nil, Server.pull_of_unheard hbus]
  have hround : (c.hold v t).sessions.keys.foldl serve (c.hold v t).pull = c.hold v t := by
    rw [hpull, show (c.hold v t).sessions = [] from hc]
    rfl
  have hidle : (!(c.hold v t).shared.bus.isIdle ||
      (c.hold v t).sessions.values.any (c.hold v t).hasWork) = false := by
    rw [show (c.hold v t).sessions = [] from hc, show (c.hold v t).shared.bus = t.shared.bus from rfl,
      Bus.MemoryBus.isIdle, show t.shared.bus.subscriptions = [] from hbus]
    rfl
  rw [settleIn, hround]
  simp only [hidle, Bool.false_eq_true, if_false, firstForfeit?_hold]
  cases t.hub.nextForfeit? <;> rfl

/-- A cluster settles by carrying out what is due at its hub. -/
theorem settleIn_hold (hc : c.sessions = []) {grace moment : Nanos} {clock : String} {t' : Site}
    (hexpires : Site.Expires moment clock t t') (h : t.Steady grace clock) (hnow : t.shared.now = moment) {fuel : Nat}
    (hfuel : t.hub.forfeits.length < fuel) : settleIn fuel (c.hold v t) = c.hold v t' := by
  induction hexpires generalizing fuel with
  | @done t hquiet =>
    obtain ⟨fuel, rfl⟩ := Nat.exists_eq_add_one_of_ne_zero (Nat.ne_zero_of_lt hfuel)
    rw [settleIn_succ_hold hc h.unheard]
    rcases t.hub.nextForfeit?_cases with ⟨-, hnext⟩ | ⟨f, hf, hnext, -⟩
    · simp only [hnext]
    · simp only [hnext, if_neg (not_le.mpr (hnow.trans_lt (hquiet f hf)))]
  | @next t t' f hfirst hdue hrest ih =>
    obtain ⟨fuel, rfl⟩ := Nat.exists_eq_add_one_of_ne_zero (Nat.ne_zero_of_lt hfuel)
    obtain ⟨hf, hleast⟩ := Hub.first_of_nextForfeit? hfirst
    have hexpiry := h.onTime.expiry clock hf hleast
    -- no time passes, since nothing is overdue
    have hmoment : f.due = t.shared.now := le_antisymm (hdue.trans_eq hnow.symm) (h.onTime.prompt f hf)
    have hwaited : t.meet (.pass f.due clock) = t := by
      rw [hmoment, ← h.ticked]
      rfl
    have hrun : t.run [.pass f.due clock, .expire f] = t.meet (.expire f) := by
      rw [Site.run_cons, Site.run_cons, Site.run_nil, hwaited]
    rw [settleIn_succ_hold hc h.unheard]
    simp only [hfirst, if_pos hmoment.le, ← hrun]
    refine ih (h.expiry hfirst) ((hexpiry.now.trans hmoment).trans hnow) ?_
    have hpos := List.length_pos_of_mem hf
    rw [hexpiry.forfeits, List.length_erase_of_mem hf]
    omega

/-- A cluster settles by carrying out what is due at its hub. -/
theorem settle_hold (hc : c.sessions = []) {grace : Nanos} {clock : String} {t' : Site}
    (hexpires : Site.Expires t.shared.now clock t t') (h : t.Steady grace clock) :
    (c.hold v t).settle = c.hold v t' := by
  refine settleIn_hold hc hexpires h rfl ?_
  have hforfeits : (c.hold v t).forfeits.length = t.hub.forfeits.length := by simp [forfeits, hold]
  rw [roundBound, hforfeits]
  omega

/-- Where nothing is due by a moment, the clock moves on to it. -/
theorem advanceIn_quiet (hc : c.sessions = []) {moment : Nanos} (hnow : t.shared.now ≤ moment)
    (hquiet : ∀ f ∈ t.hub.forfeits, moment < f.due) (fuel : Nat) :
    advanceIn moment fuel (c.hold v t) = c.hold v (t.meet (.pass moment t.store.clock)) := by
  cases fuel with
  | zero => exact moveTo_hold hnow
  | succ fuel =>
    rw [advanceIn, nextDue?_hold hc]
    rcases t.hub.nextForfeit?_cases with ⟨-, hnext⟩ | ⟨f, hf, hnext, -⟩
    · simp only [hnext, Option.map_none]
      exact moveTo_hold hnow
    · simp only [hnext, Option.map_some, if_pos (hquiet f hf)]
      exact moveTo_hold hnow

/-- As its clock moves on, a cluster carries out what comes due at its hub. -/
theorem advanceIn_hold (hc : c.sessions = []) {grace moment : Nanos} {clock : String} {t' : Site}
    (h : t.Steady grace clock) (hnow : t.shared.now ≤ moment) (hexpires : Site.Expires moment clock t t') {fuel : Nat}
    (hfuel : t.hub.forfeits.length ≤ fuel) :
    advanceIn moment fuel (c.hold v t) = c.hold v (t'.meet (.pass moment clock)) := by
  induction fuel generalizing t with
  | zero =>
    have hnone : t.hub.forfeits = [] := List.eq_nil_of_length_eq_zero (Nat.le_zero.mp hfuel)
    rcases hexpires.quiet_or with ⟨rfl, hquiet⟩ | ⟨f, hfirst, -⟩
    · rw [advanceIn_quiet hc hnow hquiet, h.ticked]
    · simpa [hnone] using (Hub.first_of_nextForfeit? hfirst).1
  | succ fuel ih =>
    rcases hexpires.quiet_or with ⟨rfl, hquiet⟩ | ⟨f, hfirst, hdue, -⟩
    · rw [advanceIn_quiet hc hnow hquiet, h.ticked]
    · obtain ⟨hf, hleast⟩ := Hub.first_of_nextForfeit? hfirst
      have hexpiry := h.onTime.expiry clock hf hleast
      -- the clock moves to the first forfeit, and whatever is due then is carried out
      have hwaited : (t.meet (.pass f.due clock)).Steady grace clock :=
        ⟨h.onTime.meet hexpiry.pass, h.unheard, rfl⟩
      obtain ⟨t₂, hsettled⟩ : ∃ t₂, Site.Expires f.due clock (t.meet (.pass f.due clock)) t₂ :=
        ⟨_, hwaited.onTime.expires f.due clock le_rfl⟩
      obtain ⟨hsteady, hnow₂, -⟩ := hwaited.expires hsettled le_rfl
      have hlength : t₂.hub.forfeits.length ≤ fuel := by
        rcases hsettled.quiet_or with ⟨-, hquiet⟩ | ⟨g, hfirst', hdue', hrest⟩
        · exact absurd (hquiet f hf) (lt_irrefl _)
        · obtain ⟨hg, hleast'⟩ := Hub.first_of_nextForfeit? hfirst'
          have hexpiry' := hwaited.onTime.expiry clock hg hleast'
          obtain ⟨-, -, hlength⟩ := (hwaited.expiry hfirst').expires hrest (hexpiry'.now.trans_le hdue')
          have hpos := List.length_pos_of_mem hg
          rw [hexpiry'.forfeits, List.length_erase_of_mem hg] at hlength
          exact hlength.trans (Nat.sub_le_of_le_add hfuel)
      have hmoved : (c.hold v t).moveTo f.due = c.hold v (t.meet (.pass f.due clock)) :=
        h.ticked ▸ moveTo_hold (h.onTime.prompt f hf)
      rw [advanceIn, nextDue?_hold hc]
      simp only [hfirst, Option.map_some, if_neg (not_lt.mpr hdue), hmoved, settle_hold hc hsettled hwaited]
      exact ih hsteady (hnow₂.trans hdue) (hsettled.split hdue (hexpires.waited hfirst hdue)) hlength

/-! ## Stimuli -/

/-- What a stimulus makes the server of a cluster do. -/
def respond (c : Cluster) : Stimulus → Cluster
  | .outside e _ => (c.meet 0 e).settle
  | .elapse span _ => c.advance span

end Cluster

namespace Game

/-- A stimulus that leaves the clock of the store alone, and subscribes nobody. -/
def Stimulus.Plain (clock : String) : Stimulus → Prop
  | .outside e _ => e ≠ .wire
  | .elapse _ time => time = clock

namespace Site

/-- What comes from outside leaves a hub steady to which nothing is due. -/
theorem Steady.outside {t : Site} {grace : Nanos} {clock : String} (h : t.Steady grace clock) (hsettled : t.Settled)
    {e : Happening} (houtside : e.FromOutside) (hwire : e ≠ .wire) : (t.meet e).Steady grace clock := by
  have hpass (now : Nanos) (time : String) : e ≠ .pass now time := by
    rintro rfl
    exact houtside
  exact
    { onTime := h.onTime.meet (.outside houtside hsettled)
      unheard := (meet_instant h.onTime.responsive hpass hwire).unheard h.unheard
      ticked := (meet_clock h.onTime.untroubled hpass).trans h.ticked }

/-- When time has passed, what has come due by then has been carried out. -/
theorem run_elapse (t : Site) (span : Nanos) (clock : String) :
    t.run ((Stimulus.elapse span clock).course t) =
      (t.run (t.expiries (t.shared.now + span) clock t.hub.forfeits.length)).meet
        (.pass (t.shared.now + span) clock) := by
  simp only [Stimulus.course, run, List.foldl_append, List.foldl_cons, List.foldl_nil]

/-- A plain stimulus leaves a hub steady, and nothing is due to it afterwards. -/
theorem Steady.course {t : Site} {grace : Nanos} {clock : String} (h : t.Steady grace clock) (hsettled : t.Settled)
    {s : Stimulus} (hs : s.Plain clock) :
    (t.run (s.course t)).Steady grace clock ∧ (t.run (s.course t)).Settled := by
  obtain ⟨hprompt, hsettled'⟩ := h.onTime.stimulus_prompt hsettled s
  have hon : (t.run (s.course t)).OnTime grace := by
    rw [← after_length]
    exact h.onTime.after hprompt _
  refine ⟨?_, hsettled'⟩
  cases s with
  | outside e houtside =>
    have hmet := h.outside hsettled houtside hs
    exact (hmet.expires (hmet.ticked ▸ hmet.onTime.expires _ _ le_rfl) le_rfl).1
  | elapse span time =>
    obtain rfl : time = clock := hs
    have hexpires := h.onTime.expires (t.shared.now + span) time le_rfl
    obtain ⟨hsteady, -, -⟩ := h.expires hexpires (Nat.le_add_right _ _)
    rw [run_elapse] at hon ⊢
    exact ⟨hon, hsteady.unheard, rfl⟩

end Site

end Game

namespace Cluster

variable {c : Cluster} {v : Server} {t : Site}

/-- What a stimulus makes a cluster do is its course at the hub. -/
theorem respond_hold (hc : c.sessions = []) {grace : Nanos} {clock : String} (h : t.Steady grace clock)
    (hsettled : t.Settled) {s : Stimulus} (hs : s.Plain clock) :
    (c.hold v t).respond s = c.hold v (t.run (s.course t)) := by
  cases s with
  | outside e houtside =>
    have hmet := h.outside hsettled houtside hs
    exact settle_hold hc (hmet.ticked ▸ hmet.onTime.expires _ _ le_rfl) hmet
  | elapse span time =>
    obtain rfl : time = clock := hs
    have hexpires := h.onTime.expires (t.shared.now + span) time le_rfl
    have hbound : t.hub.forfeits.length ≤ (c.hold v t).momentBound span := by simp [momentBound, forfeits, hold]
    rw [Site.run_elapse]
    exact advanceIn_hold hc h (Nat.le_add_right _ _) hexpires hbound

/-- What several stimuli make a cluster do is their course at the hub. -/
theorem foldl_respond_hold (hc : c.sessions = []) {grace : Nanos} {clock : String} (h : t.Steady grace clock)
    (hsettled : t.Settled) {stimuli : List Stimulus} (hs : ∀ s ∈ stimuli, s.Plain clock) :
    stimuli.foldl respond (c.hold v t) = c.hold v (t.run (t.course stimuli)) := by
  induction stimuli generalizing t with
  | nil => rfl
  | cons s rest ih =>
    obtain ⟨hplain, hrest⟩ := List.forall_mem_cons.mp hs
    obtain ⟨hsteady, hsettled'⟩ := h.course hsettled hplain
    rw [List.foldl_cons, respond_hold hc h hsettled hplain, ih hsteady hsettled' hrest, Site.course, Site.run,
      Site.run, Site.run, List.foldl_append]

/--
Whatever the server of a new cluster is exposed to, without sockets and as long as nobody subscribes to
the bus, it goes through the course of the stimuli at its hub.
-/
theorem foldl_respond_opening (hc : c.sessions = []) (grace : Nanos) (winPoints : Int64) {shared : Shared}
    (clock : String) (huntroubled : shared.storage.trouble = .none) (hresponsive : shared.bus.mode ≠ .stalled)
    (hunheard : shared.bus.Unheard) {stimuli : List Stimulus} (hs : ∀ s ∈ stimuli, s.Plain clock) :
    stimuli.foldl respond (c.hold v (.opening grace winPoints shared clock)) =
      c.hold v ((Site.opening grace winPoints shared clock).run
        ((Site.opening grace winPoints shared clock).course stimuli)) :=
  foldl_respond_hold hc ⟨Site.onTime_opening grace winPoints clock huntroubled hresponsive, hunheard, rfl⟩
    (by simp [Site.Settled, Site.opening, Site.fresh]) hs

end Cluster

end Parlor
