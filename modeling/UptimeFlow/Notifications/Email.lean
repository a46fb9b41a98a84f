import UptimeFlow.Markup
import UptimeFlow.Replacing

/-!
# UptimeFlow.Notifications.Email

The transactional emails, as they are rendered.

The HTML is written as templates: what the source interpolates with
`escapeHtml` is a value, what it interpolates as it is an address, and the rest
is literal.  Every template is sound (`sound_emailHtml`), so that nothing but
the addresses decides on the tags.
-/

namespace UptimeFlow.Notifications

open Markup Markup.Template

/-! ## jobs -/

/-- Which of the emails about an incident a subscriber gets; the three are rendered alike. -/
inductive IncidentNotice where
  | opened | updated | resolved
deriving DecidableEq, Repr

/-- Every transactional email the platform can send. -/
inductive EmailJob where
  | verifyEmail (userName verifyUrl : String)
  | resetPassword (userName resetUrl : String)
  | orgInvitation (inviterName organizationName role acceptUrl : String)
  | welcome (userName dashboardUrl : String)
  | alert (monitorName status organizationName timestamp ctaUrl : String)
  | incident (incidentTitle severity description statusPageUrl : String)
  | statusPageUpdate (pageName incidentTitle statusChange publicUrl : String)
  | statusSubscribeConfirm (pageName confirmUrl : String)
  | statusIncident (notice : IncidentNotice)
      (pageName incidentTitle statusLabel body publicUrl unsubscribeUrl : String)
deriving DecidableEq, Repr

structure RenderedEmail where
  subject : String
  html : String
  text : String
deriving DecidableEq, Repr

/-! ## escaping -/

def htmlEscapes : List (Char × List Char) :=
  [('&', "&amp;".toList), ('<', "&lt;".toList), ('>', "&gt;".toList), ('"', "&quot;".toList),
    ('\'', "&#39;".toList)]

def escapeHtml (value : List Char) : List Char := Js.replaceEach htmlEscapes value

/-! ## templates -/

namespace Brand

def name : String := "Backend Uptime"
def ink : String := "#0A0F1C"
def panel : String := "#101725"
def line : String := "#22304A"
def text : String := "#E7ECF5"
def muted : String := "#94A1B8"
def accent : String := "#FFB224"

end Brand

def markup (s : String) : Piece := .literal s.toList

/-- `${escapeHtml(s)}` -/
def escaped (s : String) : Piece := .value s.toList

/-- `${s}`, of an address. -/
def url (s : String) : Piece := .address s.toList

/-- `layout`, up to the title. -/
def layoutHead : Template :=
  [markup "<!doctype html>\n<html>\n",
    markup "  <body style=\"margin:0;padding:0;background:", markup Brand.ink,
    markup ";font-family:-apple-system,'Segoe UI',Roboto,Helvetica,Arial,sans-serif;\">\n",
    markup "    <table role=\"presentation\" width=\"100%\" cellpadding=\"0\" cellspacing=\"0\"",
    markup " style=\"background:", markup Brand.ink, markup ";padding:32px 16px;\">\n",
    markup "      <tr><td align=\"center\">\n",
    markup "        <table role=\"presentation\" width=\"100%\" cellpadding=\"0\" cellspacing=\"0\"",
    markup " style=\"max-width:520px;background:", markup Brand.panel,
    markup ";border:1px solid ", markup Brand.line, markup ";border-radius:12px;\">\n",
    markup "          <tr><td style=\"padding:28px 32px 0;\">\n",
    markup "            <div style=\"font-family:'SFMono-Regular',Menlo,Consolas,monospace;",
    markup "font-size:12px;letter-spacing:0.14em;color:", markup Brand.accent,
    markup ";text-transform:uppercase;\">Backend Uptime</div>\n",
    markup "            <h1 style=\"margin:14px 0 0;font-size:21px;line-height:1.35;color:",
    markup Brand.text, markup ";font-weight:600;\">"]

/-- `layout`, from the title to the body. -/
def layoutMiddle : Template :=
  [markup "</h1>\n          </td></tr>\n",
    markup "          <tr><td style=\"padding:18px 32px 28px;color:", markup Brand.muted,
    markup ";font-size:14px;line-height:1.65;\">\n            "]

/-- `layout`, from the body on. -/
def layoutFoot : Template :=
  [markup "\n          </td></tr>\n        </table>\n",
    markup "        <p style=\"max-width:520px;margin:16px auto 0;color:#5B677C;font-size:12px;",
    markup "line-height:1.6;\">\n",
    markup "          You received this email because of activity on a ", markup Brand.name,
    markup " account.\n          If this wasn't you, you can safely ignore it.\n",
    markup "        </p>\n      </td></tr>\n    </table>\n  </body>\n</html>"]

def layout (title bodyHtml : Template) : Template :=
  layoutHead ++ title ++ layoutMiddle ++ bodyHtml ++ layoutFoot

def button (label address : String) : Template :=
  [markup "<table role=\"presentation\" cellpadding=\"0\" cellspacing=\"0\" style=\"margin:20px 0;\">",
    markup "<tr><td style=\"background:", markup Brand.accent, markup ";border-radius:8px;\">\n",
    markup "    <a href=\"", url address,
    markup "\" style=\"display:inline-block;padding:11px 22px;color:#1A1304;font-size:14px;",
    markup "font-weight:600;text-decoration:none;\">", markup label,
    markup "</a>\n  </td></tr></table>\n",
    markup "  <p style=\"margin:0;color:#5B677C;font-size:12px;word-break:break-all;\">",
    markup "Or paste this link into your browser:<br/>", url address, markup "</p>"]

/-- A name, as the templates highlight it. -/
def strong (s : String) : Template :=
  [markup "<strong style=\"color:", markup Brand.text, markup ";\">", escaped s, markup "</strong>"]

/-- A status or a role, as the templates highlight it. -/
def mono (s : String) : Template :=
  [markup "<span style=\"font-family:Menlo,Consolas,monospace;color:", markup Brand.accent,
    markup ";\">", escaped s, markup "</span>"]

/-- The `html` of the branches of `renderEmail`. -/
def emailHtml : EmailJob → Template
  | .verifyEmail userName verifyUrl =>
      layout [markup "Confirm it's you"]
        ([markup "<p style=\"margin:0;\">Hi ", escaped userName,
          markup ", confirm your email address to finish setting up your ", markup Brand.name,
          markup " account. The link expires in 1 hour.</p>"] ++ button "Verify email" verifyUrl)
  | .resetPassword userName resetUrl =>
      layout [markup "Reset your password"]
        ([markup "<p style=\"margin:0;\">Hi ", escaped userName,
          markup ", we received a request to reset your password. The link expires in 1 hour. ",
          markup "If this wasn't you, no action is needed — your password is unchanged.</p>"] ++
          button "Choose a new password" resetUrl)
  | .orgInvitation inviterName organizationName role acceptUrl =>
      layout [markup "Join ", escaped organizationName]
        ([markup "<p style=\"margin:0;\">", escaped inviterName,
          markup " invited you to join "] ++ strong organizationName ++
          [markup " on ", markup Brand.name, markup " as "] ++ mono role ++
          [markup ". The invitation expires in 7 days.</p>"] ++ button "Accept invitation" acceptUrl)
  | .welcome userName dashboardUrl =>
      layout [markup "Welcome aboard"]
        ([markup "<p style=\"margin:0;\">Hi ", escaped userName,
          markup ", your account is verified. Create your first organization, invite your team, ",
          markup "and you'll be ready to add monitors the moment monitoring ships.</p>"] ++
          button "Open dashboard" dashboardUrl)
  | .alert monitorName status organizationName timestamp ctaUrl =>
      layout [escaped monitorName, markup " is ", escaped status]
        ([markup "<p style=\"margin:0 0 6px;\">Monitor "] ++ strong monitorName ++ [markup " in "] ++
          strong organizationName ++
          [markup " changed status.</p>\n           <p style=\"margin:0;\">Status: "] ++ mono status ++
          [markup "<br/>At: ", escaped timestamp, markup "</p>"] ++ button "View monitor" ctaUrl)
  | .incident incidentTitle severity description statusPageUrl =>
      layout [escaped incidentTitle]
        ([markup "<p style=\"margin:0 0 6px;\">Severity: "] ++ mono severity ++
          [markup "</p>\n           <p style=\"margin:0;\">", escaped description, markup "</p>"] ++
          button "View status page" statusPageUrl)
  | .statusPageUpdate pageName incidentTitle statusChange publicUrl =>
      layout [escaped incidentTitle]
        ([markup "<p style=\"margin:0 0 6px;\">Update on "] ++ strong pageName ++
          [markup ".</p>\n           <p style=\"margin:0;\">Status: "] ++ mono statusChange ++
          [markup "</p>"] ++ button "View status page" publicUrl ++
          [markup "\n           <p style=\"margin:14px 0 0;color:#5B677C;font-size:12px;\">",
            markup "You're receiving this because you subscribed to status updates.</p>"])
  | .statusSubscribeConfirm pageName confirmUrl =>
      layout [markup "Confirm your subscription"]
        ([markup "<p style=\"margin:0;\">Confirm that you want status updates for "] ++
          strong pageName ++ [markup ". If you didn't request this, ignore this email.</p>"] ++
          button "Confirm subscription" confirmUrl)
  | .statusIncident _ pageName incidentTitle statusLabel body publicUrl unsubscribeUrl =>
      layout [escaped incidentTitle]
        ([markup "<p style=\"margin:0 0 6px;\">Update on "] ++ strong pageName ++
          [markup ".</p>\n           <p style=\"margin:0 0 6px;\">Status: "] ++ mono statusLabel ++
          [markup "</p>\n           <p style=\"margin:0;\">", escaped body, markup "</p>"] ++
          button "View status page" publicUrl ++
          [markup "\n           <p style=\"margin:14px 0 0;color:#5B677C;font-size:12px;\">",
            markup "You subscribed to status updates. <a href=\"", url unsubscribeUrl,
            markup "\" style=\"color:#5B677C;\">Unsubscribe</a>.</p>"])

def emailSubject : EmailJob → String
  | .verifyEmail .. => "Verify your email address"
  | .resetPassword .. => "Reset your password"
  | .orgInvitation inviterName organizationName .. =>
      s!"{inviterName} invited you to {organizationName}"
  | .welcome .. => "Your monitoring command center is ready"
  | .alert monitorName status .. => s!"[{status}] {monitorName}"
  | .incident incidentTitle severity .. => s!"[{severity}] {incidentTitle}"
  | .statusPageUpdate pageName incidentTitle .. => s!"{pageName}: {incidentTitle}"
  | .statusSubscribeConfirm pageName _ => s!"Confirm your subscription to {pageName}"
  | .statusIncident _ pageName incidentTitle statusLabel .. =>
      s!"{pageName}: {incidentTitle} ({statusLabel})"

def emailText : EmailJob → String
  | .verifyEmail userName verifyUrl =>
      s!"Hi {userName},\n\nConfirm your email address to finish setting up your {Brand.name} " ++
        s!"account (link expires in 1 hour):\n{verifyUrl}\n\nIf this wasn't you, ignore this email."
  | .resetPassword userName resetUrl =>
      s!"Hi {userName},\n\nReset your {Brand.name} password (link expires in 1 hour):\n{resetUrl}" ++
        "\n\nIf this wasn't you, no action is needed."
  | .orgInvitation inviterName organizationName role acceptUrl =>
      s!"{inviterName} invited you to join {organizationName} on {Brand.name} as {role}.\n\n" ++
        s!"Accept (expires in 7 days):\n{acceptUrl}"
  | .welcome userName dashboardUrl =>
      s!"Hi {userName},\n\nYour account is verified. Open your dashboard:\n{dashboardUrl}"
  | .alert monitorName status organizationName timestamp ctaUrl =>
      s!"{monitorName} is {status}\nOrganization: {organizationName}\nAt: {timestamp}\n\n" ++
        s!"View monitor: {ctaUrl}"
  | .incident incidentTitle severity description statusPageUrl =>
      s!"{incidentTitle} [{severity}]\n\n{description}\n\nStatus page: {statusPageUrl}"
  | .statusPageUpdate pageName incidentTitle statusChange publicUrl =>
      s!"{pageName} — {incidentTitle}\nStatus: {statusChange}\n\n{publicUrl}\n\n" ++
        "You subscribed to status updates for this page."
  | .statusSubscribeConfirm pageName confirmUrl =>
      s!"Confirm your subscription to {pageName} status updates:\n{confirmUrl}\n\n" ++
        "If you didn't request this, ignore this email."
  | .statusIncident _ pageName incidentTitle statusLabel body publicUrl unsubscribeUrl =>
      s!"{pageName} — {incidentTitle}\nStatus: {statusLabel}\n\n{body}\n\n{publicUrl}\n\n" ++
        s!"Unsubscribe: {unsubscribeUrl}"

def renderEmail (job : EmailJob) : RenderedEmail :=
  { subject := emailSubject job
    html := String.ofList (render escapeHtml (emailHtml job))
    text := emailText job }

/-! ## soundness -/

theorem escape_escapeHtml : Escape escapeHtml :=
  Escape.of_refersTo (by decide) (by decide) (by decide) (by decide)

set_option maxRecDepth 4000 in
/-- The three parts `layout` adds start and end in the text. -/
theorem sound_layout {title bodyHtml : Template} (htitle : sound .text title = true)
    (hbody : sound .text bodyHtml = true) : sound .text (layout title bodyHtml) = true := by
  refine sound_append (sound_append (sound_append (sound_append ?_ htitle) ?_) hbody) ?_
  all_goals
    simp only [layoutHead, layoutMiddle, layoutFoot, markup, Brand.name, Brand.ink, Brand.panel,
      Brand.line, Brand.text, Brand.muted, Brand.accent]
    repeat rw [String.toList_ofList]
    rfl

set_option maxRecDepth 1000 in
theorem sound_button {label : String} (hlabel : sound .text [markup label] = true)
    (address : String) : sound .text (button label address) = true := by
  have hparts : button label address =
      (button label address).take 8 ++ ([markup label] ++ (button label address).drop 9) := rfl
  rw [hparts]
  refine sound_append ?_ (sound_append hlabel ?_)
  all_goals
    rw [← sound_hollow]
    simp only [button, List.take_succ_cons, List.take_zero, List.drop_succ_cons, List.drop_zero,
      hollow, markup, url, Brand.accent]
    repeat rw [String.toList_ofList]
    rfl

theorem sound_strong (s : String) : sound .text (strong s) = true := by
  rw [← sound_hollow]
  simp only [strong, hollow, markup, escaped, Brand.text]
  repeat rw [String.toList_ofList]
  rfl

theorem sound_mono (s : String) : sound .text (mono s) = true := by
  rw [← sound_hollow]
  simp only [mono, hollow, markup, escaped, Brand.accent]
  repeat rw [String.toList_ofList]
  rfl

set_option maxRecDepth 1000 in
/-- **Every email is sound**: its values stand in the text, its addresses in a quoted attribute or
in the text up to a tag. -/
theorem sound_emailHtml (job : EmailJob) : sound .text (emailHtml job) = true := by
  cases job
  case' verifyEmail => refine sound_layout ?_ (sound_append ?_ (sound_button ?_ _))
  case' resetPassword => refine sound_layout ?_ (sound_append ?_ (sound_button ?_ _))
  case' orgInvitation =>
    refine sound_layout ?_ (sound_append (sound_append (sound_append (sound_append (sound_append ?_
      (sound_strong _)) ?_) (sound_mono _)) ?_) (sound_button ?_ _))
  case' welcome => refine sound_layout ?_ (sound_append ?_ (sound_button ?_ _))
  case' alert =>
    refine sound_layout ?_ (sound_append (sound_append (sound_append (sound_append (sound_append
      (sound_append (sound_append ?_ (sound_strong _)) ?_) (sound_strong _)) ?_) (sound_mono _)) ?_)
      (sound_button ?_ _))
  case' incident =>
    refine sound_layout ?_ (sound_append (sound_append (sound_append ?_ (sound_mono _)) ?_)
      (sound_button ?_ _))
  case' statusPageUpdate =>
    refine sound_layout ?_ (sound_append (sound_append (sound_append (sound_append (sound_append
      (sound_append ?_ (sound_strong _)) ?_) (sound_mono _)) ?_) (sound_button ?_ _)) ?_)
  case' statusSubscribeConfirm =>
    refine sound_layout ?_ (sound_append (sound_append (sound_append ?_ (sound_strong _)) ?_)
      (sound_button ?_ _))
  case' statusIncident =>
    refine sound_layout ?_ (sound_append (sound_append (sound_append (sound_append (sound_append
      (sound_append ?_ (sound_strong _)) ?_) (sound_mono _)) ?_) (sound_button ?_ _)) ?_)
  all_goals
    rw [← sound_hollow]
    simp only [hollow, markup, escaped, url, Brand.name]
    repeat rw [String.toList_ofList]
    rfl

/-! ## what a job says -/

def EmailJob.urls : EmailJob → List String
  | .verifyEmail _ verifyUrl => [verifyUrl]
  | .resetPassword _ resetUrl => [resetUrl]
  | .orgInvitation _ _ _ acceptUrl => [acceptUrl]
  | .welcome _ dashboardUrl => [dashboardUrl]
  | .alert _ _ _ _ ctaUrl => [ctaUrl]
  | .incident _ _ _ statusPageUrl => [statusPageUrl]
  | .statusPageUpdate _ _ _ publicUrl => [publicUrl]
  | .statusSubscribeConfirm _ confirmUrl => [confirmUrl]
  | .statusIncident _ _ _ _ _ publicUrl unsubscribeUrl => [publicUrl, unsubscribeUrl]

/-- The fields that are no URLs. -/
def EmailJob.strings : EmailJob → List String
  | .verifyEmail userName _ | .resetPassword userName _ | .welcome userName _ => [userName]
  | .orgInvitation inviterName organizationName role _ => [inviterName, organizationName, role]
  | .alert monitorName status organizationName timestamp _ =>
      [monitorName, status, organizationName, timestamp]
  | .incident incidentTitle severity description _ => [incidentTitle, severity, description]
  | .statusPageUpdate pageName incidentTitle statusChange _ =>
      [pageName, incidentTitle, statusChange]
  | .statusSubscribeConfirm pageName _ => [pageName]
  | .statusIncident _ pageName incidentTitle statusLabel body _ _ =>
      [pageName, incidentTitle, statusLabel, body]

/-- The template and the URLs of a job. -/
def EmailJob.outline : EmailJob → EmailJob
  | .verifyEmail _ verifyUrl => .verifyEmail "" verifyUrl
  | .resetPassword _ resetUrl => .resetPassword "" resetUrl
  | .orgInvitation _ _ _ acceptUrl => .orgInvitation "" "" "" acceptUrl
  | .welcome _ dashboardUrl => .welcome "" dashboardUrl
  | .alert _ _ _ _ ctaUrl => .alert "" "" "" "" ctaUrl
  | .incident _ _ _ statusPageUrl => .incident "" "" "" statusPageUrl
  | .statusPageUpdate _ _ _ publicUrl => .statusPageUpdate "" "" "" publicUrl
  | .statusSubscribeConfirm _ confirmUrl => .statusSubscribeConfirm "" confirmUrl
  | .statusIncident notice _ _ _ _ publicUrl unsubscribeUrl =>
      .statusIncident notice "" "" "" "" publicUrl unsubscribeUrl

theorem outline_emailHtml (job : EmailJob) :
    outline (emailHtml job) = outline (emailHtml job.outline) := by
  cases job <;> rfl

theorem addresses_emailHtml (job : EmailJob) :
    addresses (emailHtml job) ⊆ job.urls.map String.toList := by
  cases job <;> simp [emailHtml, layout, layoutHead, layoutMiddle, layoutFoot, button, strong, mono,
    markup, escaped, url, addresses, EmailJob.urls, -String.reduceToList]

/-- Where no URL of the job breaks a tag, no address of its page does. -/
theorem address_emailHtml {job : EmailJob} (hurls : ∀ u ∈ job.urls, Address u.toList) :
    ∀ cs ∈ addresses (emailHtml job), Address cs := by
  intro cs hcs
  obtain ⟨u, hu, rfl⟩ := List.mem_map.1 (addresses_emailHtml job hcs)
  exact hurls u hu

theorem values_emailHtml (job : EmailJob) :
    job.strings.map String.toList ⊆ values (emailHtml job) := by
  cases job <;> simp [emailHtml, layout, layoutHead, layoutMiddle, layoutFoot, button, strong, mono,
    markup, escaped, url, values, EmailJob.strings, -String.reduceToList]

/-- **The tags of an email** are those of its template and its URLs. -/
theorem tagsOf_renderEmail {job job' : EmailJob} (houtline : job.outline = job'.outline)
    (hurls : ∀ u ∈ job.urls, Address u.toList) :
    tagsOf (renderEmail job).html.toList = tagsOf (renderEmail job').html.toList := by
  have houtlines : outline (emailHtml job) = outline (emailHtml job') := by
    rw [outline_emailHtml, houtline, ← outline_emailHtml]
  simp only [renderEmail, String.toList_ofList]
  exact tags_render_congr escape_escapeHtml (sound_emailHtml job) (sound_emailHtml job')
    (address_emailHtml hurls) houtlines

/-- **The text of an email**, decoded, is that of its template with the strings as they are. -/
theorem runsOf_renderEmail {job : EmailJob} (hurls : ∀ u ∈ job.urls, Address u.toList) :
    (runsOf (renderEmail job).html.toList).map decode = shown .text (emailHtml job) := by
  simp only [renderEmail, String.toList_ofList]
  exact runs_render escape_escapeHtml (sound_emailHtml job) (address_emailHtml hurls)

theorem shows_emailHtml {job : EmailJob} {s : String} (hs : s ∈ job.strings) :
    Shows (shown .text (emailHtml job)) s.toList :=
  shows_of_mem_values (values_emailHtml job (List.mem_map_of_mem hs)) .text

end UptimeFlow.Notifications
