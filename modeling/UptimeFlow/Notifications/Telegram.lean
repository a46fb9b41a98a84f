import UptimeFlow.Notifications.Email

/-!
# UptimeFlow.Notifications.Telegram

Events as Telegram messages, and what the recipients of messages see.

Telegram refuses a message whose HTML it cannot read, and a mail program shows
whatever markup it finds.  In both, the fields of an event or a job are escaped
wherever they stand: they decide on no tag, and are shown as they are
(`messages_faithful`).  Only whether a fact of an event is given at all decides
on the tags of its message, since each has a label in bold.
-/

namespace UptimeFlow.Notifications

open Markup Markup.Template

/-! ## events -/

inductive IntegrationEventName where
  | incidentOpened | incidentAcknowledged | incidentUpdated | incidentResolved
  | maintenanceCreated | maintenanceUpdated | test
deriving DecidableEq, Repr

structure IntegrationEvent where
  event : IntegrationEventName
  title : String
  summary : Option String := none
  organizationName : Option String := none
  monitorName : Option String := none
  status : Option String := none
  severity : Option String := none
  url : Option String := none
  timestamp : String
deriving DecidableEq, Repr

/-- The part of a style that Telegram can show. -/
structure EventStyle where
  emoji : String
  label : String
deriving DecidableEq, Repr

def eventStyle : IntegrationEventName → EventStyle
  | .incidentOpened => ⟨"🔴", "Incident opened"⟩
  | .incidentAcknowledged => ⟨"🟠", "Incident acknowledged"⟩
  | .incidentUpdated => ⟨"🟡", "Incident updated"⟩
  | .incidentResolved => ⟨"🟢", "Incident resolved"⟩
  | .maintenanceCreated => ⟨"🛠️", "Maintenance scheduled"⟩
  | .maintenanceUpdated => ⟨"🛠️", "Maintenance updated"⟩
  | .test => ⟨"✅", "Test notification"⟩

/-! ## messages -/

namespace Telegram

def htmlEscapes : List (Char × List Char) :=
  [('&', "&amp;".toList), ('<', "&lt;".toList), ('>', "&gt;".toList)]

def escapeHtml (value : List Char) : List Char := Js.replaceEach htmlEscapes value

structure TelegramMessage where
  chat_id : String
  text : String
  parse_mode : String := "HTML"
  disable_web_page_preview : Bool := true
deriving DecidableEq, Repr

/-- `if (value)`: a field that is present and not empty. -/
def given (value : Option String) : Option String := value.filter (· ≠ "")

/-- A fact behind its label, where it is given. -/
def fact (label : String) (value : Option String) : List Template :=
  match given value with
  | some s => [[markup label, escaped s]]
  | none => []

def facts (event : IntegrationEvent) : List Template :=
  fact "<b>Status:</b> " event.status ++ fact "<b>Severity:</b> " event.severity ++
    fact "<b>Monitor:</b> " event.monitorName ++ fact "<b>Org:</b> " event.organizationName

/-- The lines of a message; an empty template is an empty line. -/
def lines (event : IntegrationEvent) : List Template :=
  let style := eventStyle event.event
  [[markup style.emoji, markup " <b>", escaped event.title, markup "</b>"]] ++
    (match given event.summary with
      | some summary => [[], [escaped summary]]
      | none => []) ++
    (if (facts event).length > 0 then [] :: facts event else []) ++
    (match given event.url with
      | some url =>
          [[], [markup "<a href=\"", .address (escapeHtml url.toList), markup "\">View details</a>"]]
      | none => []) ++
    [[], [markup "<i>", escaped style.label, markup " · ", escaped event.timestamp, markup "</i>"]]

def messageHtml (event : IntegrationEvent) : Template := [markup "\n"].intercalate (lines event)

def build (chatId : String) (event : IntegrationEvent) : TelegramMessage :=
  { chat_id := chatId, text := String.ofList (render escapeHtml (messageHtml event)) }

/-! ## soundness -/

theorem escape_escapeHtml : Escape escapeHtml :=
  Escape.of_refersTo (by decide) (by decide) (by decide) (by decide)

/-- An escaped address is one still. -/
theorem address_escapeHtml {cs : List Char} (h : Address cs) : Address (escapeHtml cs) := by
  have htexts : ∀ c : Char, htmlEscapes.all (fun r => !r.2.contains c) = true →
      c ∉ cs → c ∉ escapeHtml cs := by
    intro c hc hcs
    refine Js.not_mem_replaceEach_of_not_mem (fun r hr => ?_) hcs
    simpa using List.all_eq_true.1 hc r hr
  exact ⟨htexts _ (by decide) h.opens, htexts _ (by decide) h.closes,
    htexts _ (by decide) h.quote⟩

/-! ## the tags of a message -/

/-- The tags of a text in bold. -/
def bold : List (List Char) := [['b'], ['/', 'b']]

def italic : List (List Char) := [['i'], ['/', 'i']]

/-- The tags of the link, where there is one. -/
def link (event : IntegrationEvent) : List (List Char) :=
  match given event.url with
  | some url => [['a', ' ', 'h', 'r', 'e', 'f', '=', '"'] ++ escapeHtml url.toList ++ ['"'], ['/', 'a']]
  | none => []

theorem fragment_markup {cs : List Char} {own : List (List Char)}
    (hsound : sound .text [.literal cs] = true)
    (htags : ∀ behind, tags .text cs behind = own ++ behind) :
    Fragment [markup (String.ofList cs)] own := by
  rw [markup, String.toList_ofList]
  exact .literal hsound htags

theorem fragment_emoji (event : IntegrationEventName) :
    Fragment [markup (eventStyle event).emoji] [] := by
  cases event
  all_goals exact fragment_markup rfl fun _ => rfl

theorem fragment_escaped (s : String) : Fragment [escaped s] [] := .value s.toList

/-- Literals around a value. -/
theorem fragment_around {before after : String} {own own' : List (List Char)} {s : String}
    (hbefore : Fragment [markup before] own) (hafter : Fragment [markup after] own') :
    Fragment [markup before, escaped s, markup after] (own ++ own') := by
  have h := (hbefore.append (fragment_escaped s)).append hafter
  rwa [List.append_nil] at h

theorem fragment_title (event : IntegrationEvent) :
    Fragment [markup (eventStyle event.event).emoji, markup " <b>", escaped event.title,
      markup "</b>"] bold := by
  have hopen : Fragment [markup " <b>"] [['b']] := fragment_markup rfl fun _ => rfl
  have hclose : Fragment [markup "</b>"] [['/', 'b']] := fragment_markup rfl fun _ => rfl
  exact (fragment_emoji event.event).append (fragment_around hopen hclose)

theorem fragment_footer (event : IntegrationEvent) :
    Fragment [markup "<i>", escaped (eventStyle event.event).label, markup " · ",
      escaped event.timestamp, markup "</i>"] italic := by
  have hopen : Fragment [markup "<i>"] [['i']] := fragment_markup rfl fun _ => rfl
  have hdot : Fragment [markup " · "] [] := fragment_markup rfl fun _ => rfl
  have hclose : Fragment [markup "</i>"] [['/', 'i']] := fragment_markup rfl fun _ => rfl
  exact (hopen.append (fragment_escaped _)).append (fragment_around hdot hclose)

/-- Every fact has a label in bold. -/
theorem fragment_facts (event : IntegrationEvent) :
    List.Forall₂ Fragment (facts event) ((facts event).map fun _ => bold) := by
  have hfact : ∀ {label : String}, Fragment [markup label] bold → ∀ value : Option String,
      ∀ t ∈ fact label value, Fragment t bold := by
    intro label hlabel value t ht
    unfold fact at ht
    split at ht
    · next s _ =>
      obtain rfl := List.mem_singleton.1 ht
      exact hlabel.append (fragment_escaped s)
    · cases ht
  have hall : ∀ t ∈ facts event, Fragment t bold := by
    intro t ht
    simp only [facts, List.mem_append] at ht
    obtain ((ht | ht) | ht) | ht := ht
    all_goals exact hfact (fragment_markup rfl fun _ => rfl) _ t ht
  rw [List.forall₂_map_right_iff, List.forall₂_same]
  exact hall

/-- The URL of an event, where it has one, is an address. -/
def Addressed (event : IntegrationEvent) : Prop := ∀ url, event.url = some url → Address url.toList

theorem address_empty : Address "".toList := ⟨by simp, by simp, by simp⟩

theorem Addressed.given {event : IntegrationEvent} (h : Addressed event) {url : String}
    (hurl : given event.url = some url) : Address url.toList :=
  h url (Option.eq_some_of_filter_eq_some hurl)

theorem addressed_of_none {event : IntegrationEvent} (h : event.url = none) : Addressed event := by
  intro url hurl
  rw [h] at hurl
  cases hurl

theorem fragment_link {url : String} (h : Address url.toList) :
    Fragment [markup "<a href=\"", .address (escapeHtml url.toList), markup "\">View details</a>"]
      [['a', ' ', 'h', 'r', 'e', 'f', '=', '"'] ++ escapeHtml url.toList ++ ['"'], ['/', 'a']] := by
  constructor
  · rw [← sound_hollow]
    simp only [hollow, markup]
    repeat rw [String.toList_ofList]
    rfl
  · intro behind
    simp only [markup]
    repeat rw [String.toList_ofList]
    have hvalue := tags_quoted (address_escapeHtml h).quote ['"'] (['/', 'a'] :: behind)
    show tags .text _ (tags (.quoted '"') (escapeHtml url.toList) (['"'] :: ['/', 'a'] :: behind)) = _
    rw [hvalue]
    rfl
  · intro cs hcs
    obtain rfl := List.mem_singleton.1 hcs
    exact address_escapeHtml h

/-- The tags of the lines of a message. -/
def lineTags (event : IntegrationEvent) : List (List (List Char)) :=
  [bold] ++ (match given event.summary with | some _ => [[], []] | none => []) ++
    (if (facts event).length > 0 then [] :: (facts event).map fun _ => bold else []) ++
    (match given event.url with | some _ => [[], link event] | none => []) ++ [[], italic]

theorem fragment_lines {event : IntegrationEvent} (h : Addressed event) :
    List.Forall₂ Fragment (lines event) (lineTags event) := by
  refine List.rel_append (List.rel_append (List.rel_append (List.rel_append ?_ ?_) ?_) ?_) ?_
  · exact .cons (fragment_title event) .nil
  · cases given event.summary with
    | none => exact .nil
    | some summary => exact .cons .nil (.cons (fragment_escaped summary) .nil)
  · split
    · exact .cons .nil (fragment_facts event)
    · exact .nil
  · cases hurl : given event.url with
    | none => exact .nil
    | some url =>
        refine .cons .nil (.cons ?_ .nil)
        rw [link, hurl]
        exact fragment_link (h.given hurl)
  · exact .cons .nil (.cons (fragment_footer event) .nil)

theorem fragment_newline : Fragment [markup "\n"] [] := fragment_markup rfl fun _ => rfl

theorem fragment_messageHtml {event : IntegrationEvent} (h : Addressed event) :
    Fragment (messageHtml event) (lineTags event).flatten :=
  fragment_newline.intercalate (fragment_lines h)

theorem flatten_lineTags (event : IntegrationEvent) :
    (lineTags event).flatten =
      bold ++ (facts event).flatMap (fun _ => bold) ++ link event ++ italic := by
  have hfacts : (if (facts event).length > 0 then [] :: (facts event).map fun _ => bold
      else []).flatten = (facts event).flatMap fun _ => bold := by
    split
    · rw [List.flatten_cons, List.nil_append, List.flatMap_def]
    · next hnone =>
      rw [List.length_eq_zero_iff.1 (Nat.eq_zero_of_not_pos hnone)]
      rfl
  have hlink : (match given event.url with | some _ => [[], link event] | none => []).flatten =
      link event := by
    cases hurl : given event.url with
    | none => rw [link, hurl]; rfl
    | some url => simp
  simp only [lineTags, List.flatten_append, hfacts, hlink]
  cases given event.summary <;> simp

/-- **The tags of a message**: the title, a label for every fact, the link and the footer. -/
theorem tagsOf_build (chatId : String) {event : IntegrationEvent} (h : Addressed event) :
    tagsOf (build chatId event).text.toList =
      bold ++ (facts event).flatMap (fun _ => bold) ++ link event ++ italic := by
  rw [← flatten_lineTags]
  simp only [build, String.toList_ofList]
  exact (fragment_messageHtml h).tagsOf_render escape_escapeHtml

theorem runsOf_build (chatId : String) {event : IntegrationEvent} (h : Addressed event) :
    (runsOf (build chatId event).text.toList).map decode = shown .text (messageHtml event) := by
  have hfragment := fragment_messageHtml h
  simp only [build, String.toList_ofList]
  exact runs_render escape_escapeHtml hfragment.sound hfragment.addresses

/-! ## the strings of an event -/

/-- The fields that are no URLs, as far as they are present. -/
def strings (event : IntegrationEvent) : List String :=
  [event.title, event.timestamp] ++
    [event.summary, event.status, event.severity, event.monitorName,
      event.organizationName].filterMap id

theorem mem_lines_of_mem_facts {event : IntegrationEvent} {t : Template} (ht : t ∈ facts event) :
    t ∈ lines event := by
  have hpos : (facts event).length > 0 := List.length_pos_of_mem ht
  simp [lines, hpos, ht]

theorem shows_messageHtml {event : IntegrationEvent} {s : String} (hs : s ∈ strings event) :
    Shows (shown .text (messageHtml event)) s.toList := by
  by_cases hempty : s = ""
  · obtain ⟨run, rest, heq⟩ := List.exists_cons_of_ne_nil (shown_ne_nil .text (messageHtml event))
    rw [hempty, heq]
    exact ⟨run, List.mem_cons_self, List.nil_infix⟩
  have hgiven : given (some s) = some s := Option.filter_some_pos (by simpa using hempty)
  have hline : ∃ t ∈ lines event, s.toList ∈ values t := by
    have hfact : ∀ label, [markup label, escaped s] ∈ facts event →
        ∃ t ∈ lines event, s.toList ∈ values t := fun label ht =>
      ⟨_, mem_lines_of_mem_facts ht, List.mem_cons_self⟩
    simp only [strings, List.mem_append, List.mem_cons, List.not_mem_nil, or_false,
      List.mem_filterMap, id_eq, exists_eq_right] at hs
    obtain (rfl | rfl) | hsummary | hstatus | hseverity | hmonitor | horganization := hs
    · refine ⟨[markup (eventStyle event.event).emoji, markup " <b>", escaped event.title,
        markup "</b>"], by simp [lines], List.mem_cons_self⟩
    · refine ⟨[markup "<i>", escaped (eventStyle event.event).label, markup " · ",
        escaped event.timestamp, markup "</i>"], by simp [lines], ?_⟩
      exact List.mem_cons_of_mem _ List.mem_cons_self
    · refine ⟨[escaped s], ?_, List.mem_cons_self⟩
      simp [lines, ← hsummary, hgiven]
    · exact hfact "<b>Status:</b> " (by simp [facts, fact, ← hstatus, hgiven])
    · exact hfact "<b>Severity:</b> " (by simp [facts, fact, ← hseverity, hgiven])
    · exact hfact "<b>Monitor:</b> " (by simp [facts, fact, ← hmonitor, hgiven])
    · exact hfact "<b>Org:</b> " (by simp [facts, fact, ← horganization, hgiven])
  obtain ⟨t, ht, hvalue⟩ := hline
  exact shows_of_mem_values (values_subset_intercalate ht hvalue) .text

/-- What decides on the tags: the link, and which facts are given. -/
def outline (event : IntegrationEvent) : Option String × List Bool :=
  (given event.url, [event.status, event.severity, event.monitorName, event.organizationName].map
    fun value => (given value).isSome)

theorem tagsOf_build_congr (chatId : String) {event event' : IntegrationEvent}
    (houtline : outline event = outline event') (h : Addressed event) :
    tagsOf (build chatId event).text.toList = tagsOf (build chatId event').text.toList := by
  have hfact : ∀ label value, (fact label value).length = if (given value).isSome then 1 else 0 := by
    intro label value
    unfold fact
    cases given value <;> rfl
  simp only [outline, Prod.mk.injEq, List.map_cons, List.map_nil, List.cons.injEq, and_true] at houtline
  obtain ⟨hurl, hstatus, hseverity, hmonitor, horganization⟩ := houtline
  have h' : Addressed event' := by
    intro url hurl'
    by_cases hempty : url = ""
    · rw [hempty]
      exact address_empty
    · have hgiven : Telegram.given event'.url = some url := by
        rw [hurl']
        exact Option.filter_some_pos (by simpa using hempty)
      exact h.given (hurl.trans hgiven)
  have hlength : (facts event).length = (facts event').length := by
    simp only [facts, List.length_append, hfact, hstatus, hseverity, hmonitor, horganization]
  have hbold : ∀ ts us : List Template, ts.length = us.length →
      ts.flatMap (fun _ => bold) = us.flatMap fun _ => bold := by
    intro ts us hlength
    rw [List.flatMap_def, List.flatMap_def, List.map_const', List.map_const', hlength]
  have hlink : link event = link event' := by
    rw [link, link, hurl]
  rw [tagsOf_build chatId h, tagsOf_build chatId h', hbold _ _ hlength, hlink]

end Telegram

/-! ## messages -/

/-- **What recipients see**: in every email and every Telegram message, the tags depend on the
template and the URLs, and in Telegram on which facts are given; the text shows every other field as
it is. -/
theorem messages_faithful :
    (∀ job job' : EmailJob, job.outline = job'.outline → (∀ u ∈ job.urls, Address u.toList) →
      tagsOf (renderEmail job).html.toList = tagsOf (renderEmail job').html.toList) ∧
    (∀ job : EmailJob, (∀ u ∈ job.urls, Address u.toList) →
      (runsOf (renderEmail job).html.toList).map decode = shown .text (emailHtml job) ∧
        ∀ s ∈ job.strings, Shows ((runsOf (renderEmail job).html.toList).map decode) s.toList) ∧
    (∀ (chatId : String) (event event' : IntegrationEvent),
      Telegram.outline event = Telegram.outline event' → Telegram.Addressed event →
        tagsOf (Telegram.build chatId event).text.toList =
          tagsOf (Telegram.build chatId event').text.toList) ∧
    (∀ (chatId : String) (event : IntegrationEvent), Telegram.Addressed event →
      (runsOf (Telegram.build chatId event).text.toList).map decode =
          shown .text (Telegram.messageHtml event) ∧
        ∀ s ∈ Telegram.strings event,
          Shows ((runsOf (Telegram.build chatId event).text.toList).map decode) s.toList) := by
  refine ⟨fun job job' => tagsOf_renderEmail, fun job hurls => ?_,
    fun chatId event event' => Telegram.tagsOf_build_congr chatId, fun chatId event h => ?_⟩
  · rw [runsOf_renderEmail hurls]
    exact ⟨rfl, fun s => shows_emailHtml⟩
  · rw [Telegram.runsOf_build chatId h]
    exact ⟨rfl, fun s => Telegram.shows_messageHtml⟩

/-- A name that is markup. -/
def script : String := "<script>&amp;"

def outage : IntegrationEvent :=
  { event := .incidentOpened, title := script, status := some "DOWN", timestamp := "now" }

theorem messages_faithful_script :
    tagsOf (renderEmail (.welcome script "https://acme.test")).html.toList =
        tagsOf (renderEmail (.welcome "Ada" "https://acme.test")).html.toList ∧
      Shows ((runsOf (renderEmail (.welcome script "https://acme.test")).html.toList).map decode)
        script.toList ∧
      tagsOf (Telegram.build "1" outage).text.toList =
        tagsOf (Telegram.build "1" { outage with title := "API", status := some "UP" }).text.toList ∧
      Shows ((runsOf (Telegram.build "1" outage).text.toList).map decode) script.toList := by
  have hurls : ∀ u ∈ ["https://acme.test"], Address u.toList := by
    intro u hu
    obtain rfl := List.mem_singleton.1 hu
    exact ⟨by decide +kernel, by decide +kernel, by decide +kernel⟩
  have haddressed : Telegram.Addressed outage := Telegram.addressed_of_none rfl
  exact ⟨messages_faithful.1 (.welcome _ _) (.welcome _ _) rfl hurls,
    (messages_faithful.2.1 (.welcome _ _) hurls).2 _ List.mem_cons_self,
    messages_faithful.2.2.1 _ outage _ (by decide +kernel) haddressed,
    (messages_faithful.2.2.2 _ outage haddressed).2 _ List.mem_cons_self⟩

/-- A status that is empty has no label, and no tags. -/
theorem not_tags_status :
    ¬ ∀ event event' : IntegrationEvent, event.event = event'.event → event.url = event'.url →
      Telegram.Addressed event →
        tagsOf (Telegram.build "1" event).text.toList =
          tagsOf (Telegram.build "1" event').text.toList := by
  intro hsame
  have hdown : Telegram.Addressed outage := Telegram.addressed_of_none rfl
  have hempty : Telegram.Addressed { outage with status := some "" } :=
    Telegram.addressed_of_none rfl
  have htags := hsame outage { outage with status := some "" } rfl rfl hdown
  rw [Telegram.tagsOf_build "1" hdown, Telegram.tagsOf_build "1" hempty] at htags
  revert htags
  decide +kernel

end UptimeFlow.Notifications
