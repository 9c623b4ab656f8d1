import OmniSupport.Foundation.Html
import OmniSupport.Notification.NotificationService

/-! The HTML of the e-mails: names, titles and reasons come from users and reach their readers as
text. -/
namespace OmniSupport.Notification
open Foundation Html

/-- An escaped value in a template. -/
def escapeHtml (value : String) : Piece := .filled value

def buildTicketCreatedEmail (customerName : String) (ticketNumber : Nat)
    (title ticketUrl tenantName : String) : List Piece :=
  [.literal "\n      <div style=\"font-family:Arial,sans-serif;max-width:600px;margin:0 auto;\">",
    .literal "\n        <h2 style=\"color:#4F46E5;\">",
    escapeHtml tenantName,
    .literal " Support</h2>\n        <p>Hi ",
    escapeHtml customerName,
    .literal ",</p>\n        <p>Your support ticket has been created successfully.</p>",
    .literal "\n        <div style=\"background:#F3F4F6;padding:16px;border-radius:8px;",
    .literal "margin:16px 0;\">",
    .literal "\n          <p><strong>Ticket #",
    escapeHtml (toString ticketNumber),
    .literal "</strong></p>\n          <p>",
    escapeHtml title,
    .literal "</p>\n        </div>\n        <a href=\"",
    escapeHtml ticketUrl,
    .literal "\" style=\"background:#4F46E5;color:white;padding:12px 24px;text-decoration:none;",
    .literal "border-radius:4px;display:inline-block;\">",
    .literal "\n          View Ticket\n        </a>",
    .literal "\n        <p style=\"color:#6B7280;font-size:12px;margin-top:32px;\">",
    .literal "\n          This is an automated message from ",
    escapeHtml tenantName,
    .literal " Support.\n        </p>\n      </div>\n    "]

def buildTicketAssignedEmail (agentName : String) (ticketNumber : Nat)
    (title ticketUrl tenantName : String) : List Piece :=
  [.literal "\n      <div style=\"font-family:Arial,sans-serif;max-width:600px;margin:0 auto;\">",
    .literal "\n        <h2 style=\"color:#4F46E5;\">",
    escapeHtml tenantName,
    .literal " Support</h2>\n        <p>Hi ",
    escapeHtml agentName,
    .literal ",</p>\n        <p>Ticket #",
    escapeHtml (toString ticketNumber),
    .literal " has been assigned to you.</p>",
    .literal "\n        <div style=\"background:#F3F4F6;padding:16px;border-radius:8px;",
    .literal "margin:16px 0;\">",
    .literal "\n          <p><strong>",
    escapeHtml title,
    .literal "</strong></p>\n        </div>\n        <a href=\"",
    escapeHtml ticketUrl,
    .literal "\" style=\"background:#4F46E5;color:white;padding:12px 24px;text-decoration:none;",
    .literal "border-radius:4px;display:inline-block;\">",
    .literal "\n          View Ticket\n        </a>\n      </div>\n    "]

def buildTicketEscalatedEmail (recipientName : String) (ticketNumber : Nat)
    (title reason ticketUrl tenantName : String) : List Piece :=
  [.literal "\n      <div style=\"font-family:Arial,sans-serif;max-width:600px;margin:0 auto;\">",
    .literal "\n        <h2 style=\"color:#DC2626;\">🚨 Escalation Alert - ",
    escapeHtml tenantName,
    .literal "</h2>\n        <p>Hi ",
    escapeHtml recipientName,
    .literal ",</p>\n        <p>Ticket #",
    escapeHtml (toString ticketNumber),
    .literal " requires immediate attention.</p>",
    .literal "\n        <div style=\"background:#FEF2F2;border:1px solid #DC2626;padding:16px;",
    .literal "border-radius:8px;margin:16px 0;\">",
    .literal "\n          <p><strong>",
    escapeHtml title,
    .literal "</strong></p>\n          <p><strong>Reason:</strong> ",
    escapeHtml reason,
    .literal "</p>\n        </div>\n        <a href=\"",
    escapeHtml ticketUrl,
    .literal "\" style=\"background:#DC2626;color:white;padding:12px 24px;text-decoration:none;",
    .literal "border-radius:4px;display:inline-block;\">",
    .literal "\n          View Escalated Ticket\n        </a>\n      </div>\n    "]

def buildTicketResolvedEmail (customerName : String) (ticketNumber : Nat)
    (title ticketUrl tenantName : String) : List Piece :=
  [.literal "\n      <div style=\"font-family:Arial,sans-serif;max-width:600px;margin:0 auto;\">",
    .literal "\n        <h2 style=\"color:#059669;\">",
    escapeHtml tenantName,
    .literal " Support</h2>\n        <p>Hi ",
    escapeHtml customerName,
    .literal ",</p>\n        <p>Your support ticket has been resolved.</p>",
    .literal "\n        <div style=\"background:#ECFDF5;padding:16px;border-radius:8px;",
    .literal "margin:16px 0;\">",
    .literal "\n          <p><strong>Ticket #",
    escapeHtml (toString ticketNumber),
    .literal "</strong></p>\n          <p>",
    escapeHtml title,
    .literal "</p>\n        </div>\n        <a href=\"",
    escapeHtml ticketUrl,
    .literal "\" style=\"background:#059669;color:white;padding:12px 24px;text-decoration:none;",
    .literal "border-radius:4px;display:inline-block;\">",
    .literal "\n          View Resolution\n        </a>",
    .literal "\n        <p>If you're not satisfied, you can reopen your ticket from the link ",
    .literal "above.</p>",
    .literal "\n      </div>\n    "]

def buildCommentNotificationEmail (recipientName : String) (ticketNumber : Nat)
    (title authorName ticketUrl tenantName : String) : List Piece :=
  [.literal "\n      <div style=\"font-family:Arial,sans-serif;max-width:600px;margin:0 auto;\">",
    .literal "\n        <h2 style=\"color:#4F46E5;\">",
    escapeHtml tenantName,
    .literal " Support</h2>\n        <p>Hi ",
    escapeHtml recipientName,
    .literal ",</p>\n        <p><strong>",
    escapeHtml authorName,
    .literal "</strong> replied to Ticket #",
    escapeHtml (toString ticketNumber),
    .literal ".</p>",
    .literal "\n        <div style=\"background:#F3F4F6;padding:16px;border-radius:8px;",
    .literal "margin:16px 0;\">",
    .literal "\n          <p>",
    escapeHtml title,
    .literal "</p>\n        </div>\n        <a href=\"",
    escapeHtml ticketUrl,
    .literal "\" style=\"background:#4F46E5;color:white;padding:12px 24px;text-decoration:none;",
    .literal "border-radius:4px;display:inline-block;\">",
    .literal "\n          View Reply\n        </a>\n      </div>\n    "]

def buildPasswordResetEmailHtml (firstName resetUrl : String) : List Piece :=
  [.literal "\n      <h1>Reset your password, ",
    escapeHtml firstName,
    .literal "</h1>",
    .literal "\n      <p>Click the button below to reset your password. This link expires in 1 ",
    .literal "hour.</p>",
    .literal "\n      <a href=\"",
    escapeHtml resetUrl,
    .literal "\" style=\"background:#4F46E5;color:white;padding:12px 24px;text-decoration:none;",
    .literal "border-radius:4px;\">",
    .literal "\n        Reset Password\n      </a>",
    .literal "\n      <p>If you didn't request this, please ignore this email.</p>\n    "]

def invitationHtml (url : String) : List Piece :=
  [.literal "<p>You have been invited to OmniSupport.</p><a href=\"",
    escapeHtml url,
    .literal "\">Accept invitation</a><p>This link expires in 24 hours.</p>"]

/-- The template with its values. -/
def EmailTemplate.pieces : EmailTemplate → List Piece
  | ticketCreated customerName ticketNumber title ticketUrl tenantName =>
    buildTicketCreatedEmail customerName ticketNumber title ticketUrl tenantName
  | ticketAssigned agentName ticketNumber title ticketUrl tenantName =>
    buildTicketAssignedEmail agentName ticketNumber title ticketUrl tenantName
  | ticketEscalated recipientName ticketNumber title reason ticketUrl tenantName =>
    buildTicketEscalatedEmail recipientName ticketNumber title reason ticketUrl tenantName
  | ticketResolved customerName ticketNumber title ticketUrl tenantName =>
    buildTicketResolvedEmail customerName ticketNumber title ticketUrl tenantName
  | commentNotification recipientName ticketNumber title authorName ticketUrl tenantName =>
    buildCommentNotificationEmail recipientName ticketNumber title authorName ticketUrl tenantName

/-- The template with nothing filled in. -/
def EmailTemplate.blank : EmailTemplate → EmailTemplate
  | ticketCreated .. => ticketCreated "" 0 "" "" ""
  | ticketAssigned .. => ticketAssigned "" 0 "" "" ""
  | ticketEscalated .. => ticketEscalated "" 0 "" "" "" ""
  | ticketResolved .. => ticketResolved "" 0 "" "" ""
  | commentNotification .. => commentNotification "" 0 "" "" "" ""

/-- The e-mails that are sent: those of the notifications, the password reset and the invitation. -/
inductive Email where
  | notification (template : EmailTemplate)
  | passwordReset (firstName resetUrl : String)
  | invitation (url : String)

namespace Email

def pieces : Email → List Piece
  | notification template => template.pieces
  | passwordReset firstName resetUrl => buildPasswordResetEmailHtml firstName resetUrl
  | invitation url => invitationHtml url

def blank : Email → Email
  | notification template => notification template.blank
  | passwordReset .. => passwordReset "" ""
  | invitation _ => invitation ""

def html (email : Email) : String := render email.pieces

theorem frame_blank (email : Email) :
    email.pieces.map Piece.frame = email.blank.pieces.map Piece.frame := by
  cases email with
  | notification template => cases template <;> rfl
  | passwordReset => rfl
  | invitation => rfl

attribute [local irreducible] placed in
set_option maxRecDepth 4000 in
/-- Every value stands in text or in an attribute value. -/
theorem placed_template (template : EmailTemplate) :
    placed .text (template.pieces.map Piece.frame) = true := by
  cases template <;> dsimp only [EmailTemplate.pieces, buildTicketCreatedEmail,
    buildTicketAssignedEmail, buildTicketEscalatedEmail, buildTicketResolvedEmail,
    buildCommentNotificationEmail, escapeHtml, List.map_cons, List.map_nil, Piece.frame] <;>
    repeat
      first
      | exact placed_nil
      | refine placed_filled (by decide +kernel) ?_
      | refine placed_literal (by decide +kernel) ?_

attribute [local irreducible] placed in
set_option maxRecDepth 4000 in
theorem placed_pieces (email : Email) : placed .text (email.pieces.map Piece.frame) = true := by
  cases email with
  | notification template => exact placed_template template
  | passwordReset firstName resetUrl =>
    dsimp only [pieces, buildPasswordResetEmailHtml, escapeHtml, List.map_cons, List.map_nil,
      Piece.frame]
    repeat
      first
      | exact placed_nil
      | refine placed_filled (by decide +kernel) ?_
      | refine placed_literal (by decide +kernel) ?_
  | invitation url =>
    refine placed_literal (by decide +kernel) (placed_filled (by decide +kernel) ?_)
    exact placed_literal (by decide +kernel) placed_nil

/-- Whatever names, titles and addresses are filled in, a reader sees the tags of the template, and
the values as text between them, character by character. -/
theorem emails_show_values (email : Email) :
    read email.html = tokens .text email.pieces ∧
      markup (read email.html) = markup (read email.blank.html) := by
  have hread : read email.html = tokens .text email.pieces := read_render (placed_pieces email)
  have hblank : read email.blank.html = tokens .text email.blank.pieces :=
    read_render (placed_pieces email.blank)
  refine ⟨hread, ?_⟩
  rw [hread, hblank]
  exact markup_tokens (frame_blank email)

end Email
end OmniSupport.Notification
