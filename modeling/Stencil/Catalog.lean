/-
# Built-in templates

Two templates come with the library, as starting points for new ones.
-/

import Stencil.Log.Trace
import Stencil.Placeholder

namespace Stencil.Catalog

/-- The text that refers to a key. -/
def mention (key : String) : String :=
  String.ofList (Placeholder.Token.mk key.toList none).written

/-- The fields that describe the company. -/
def companyFields : List Field :=
  [{ id := "company-name", key := "companyName", label := "Company Name",
     defaultValue := some (.text "Codestam Technologies") },
   { id := "company-address", key := "companyAddress", label := "Company Address",
     type := .textarea, defaultValue := some (.text "Ranchi Jharkhand – 835103") }]

/-- An invoice with company, client, items and totals. -/
def invoice : Template :=
  { id := "invoice-default"
    name := "Standard Invoice"
    description :=
      some "A standard invoice template with company info, client details, and items table"
    category := some "Invoice"
    sections :=
      [{ id := "header-1", kindName := "header",
         content := some ("INVOICE\n" ++ mention "companyName" ++ "\n" ++ mention "companyAddress"),
         style := some
          { fontSize := some (.ofInt 18), fontWeight := some "bold", textAlign := some "center" } },
       { id := "separator-1", kindName := "separator" },
       { id := "invoice-details", kindName := "section", title := some "Invoice Details",
         fields := some
          [{ id := "invoice-number", key := "invoiceNumber", label := "Invoice Number",
             isRequired := true },
           { id := "invoice-date", key := "invoiceDate", label := "Invoice Date", type := .date,
             isRequired := true }] },
       { id := "client-info", kindName := "section", title := some "Client Information",
         fields := some
          [{ id := "client-name", key := "clientName", label := "Client Name",
             isRequired := true },
           { id := "client-email", key := "clientEmail", label := "Client Email",
             type := .email },
           { id := "client-address", key := "clientAddress", label := "Client Address",
             type := .textarea }] },
       { id := "items-table", kindName := "table", title := some "Items",
         columns := some
          [{ id := "desc-col", key := "description", label := "Description" },
           { id := "qty-col", key := "quantity", label := "Quantity", type := .number },
           { id := "price-col", key := "price", label := "Price", type := .number },
           { id := "total-col", key := "total", label := "Total", type := .number }] },
       { id := "summary", kindName := "section", title := some "Summary",
         fields := some
          [{ id := "subtotal", key := "subtotal", label := "Subtotal", type := .number },
           { id := "tax", key := "tax", label := "Tax", type := .number },
           { id := "total", key := "total", label := "Total", type := .number }] },
       { id := "separator-2", kindName := "separator" },
       { id := "notes", kindName := "body", content := some ("Notes: " ++ mention "notes") },
       { id := "signature", kindName := "signature", title := some "Authorized Signature",
         fields := some
          [{ id := "signer-name", key := "signerName", label := "Name" },
           { id := "signer-date", key := "signerDate", label := "Date", type := .date }] }]
    fields := companyFields ++
      [{ id := "notes", key := "notes", label := "Notes", type := .textarea }] }

/-- A letter with sender, recipient, subject and body. -/
def letter : Template :=
  { id := "letter-default"
    name := "Standard Letter"
    description := some "A simple letter template"
    category := some "Letter"
    sections :=
      [{ id := "header-1", kindName := "header",
         content := some (mention "companyName" ++ "\n" ++ mention "companyAddress") },
       { id := "separator-1", kindName := "separator" },
       { id := "date", kindName := "body", content := some ("Date: " ++ mention "date") },
       { id := "recipient", kindName := "body",
         content := some
          ("To,\n" ++ mention "recipientName" ++ "\n" ++ mention "recipientAddress") },
       { id := "subject", kindName := "body", content := some ("Subject: " ++ mention "subject"),
         style := some { fontWeight := some "bold" } },
       { id := "body", kindName := "body", content := some (mention "bodyContent") },
       { id := "signature", kindName := "signature", title := some "Signature",
         fields := some [{ id := "signer-name", key := "signerName", label := "Name" }] }]
    fields := companyFields ++
      [{ id := "date", key := "date", label := "Date", type := .date },
       { id := "recipient-name", key := "recipientName", label := "Recipient Name" },
       { id := "recipient-address", key := "recipientAddress", label := "Recipient Address",
         type := .textarea },
       { id := "subject", key := "subject", label := "Subject" },
       { id := "body-content", key := "bodyContent", label := "Body Content",
         type := .textarea },
       { id := "signer-name", key := "signerName", label := "Signer Name" }] }

/-- The built-in templates in order. -/
def templates : List Template := [invoice, letter]

/-- The ids of the built-in templates. -/
def ids : List String := templates.map Template.id

/-- The built-in template of an id. -/
def find (id : String) : Traced Template :=
  match templates.find? fun t => t.id == id with
  | some t => pure t
  | none => do
    Traced.note (.unknownTemplate id)
    .fail (.templateUnknown id ids)

end Stencil.Catalog
