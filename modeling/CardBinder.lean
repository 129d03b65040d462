import CardBinder.Text.Width
import CardBinder.Text.Digits
import CardBinder.Text.Integer
import CardBinder.Names
import CardBinder.Like
import CardBinder.Json.Printer
import CardBinder.Json.Parser
import CardBinder.Json.Decode
import CardBinder.Tally
import CardBinder.Lookup.Table
import CardBinder.Relation
import CardBinder.Card
import CardBinder.CardSet
import CardBinder.Failure
import CardBinder.Forest
import CardBinder.Catalog.Load
import CardBinder.Filter.Basic
import CardBinder.Filter.Role
import CardBinder.Filter.Guess
import CardBinder.Grouping
import CardBinder.Filter.Expression
import CardBinder.Features
import CardBinder.Holder.DeckList
import CardBinder.Holder.Prepare
import CardBinder.Store
import CardBinder.Report
import CardBinder.FileAccess.Memory
import CardBinder.Main
import CardBinder.Proofs.Lookup.Reload
import CardBinder.Proofs.Desk.Durable
import CardBinder.Proofs.Desk.Reattachment
import CardBinder.Proofs.Forest.Repair
import CardBinder.Proofs.Supply.Assignment
import CardBinder.Proofs.Filter.Selection
import CardBinder.Proofs.Desk.Freshness
import CardBinder.Proofs.Desk.Commit
import CardBinder.Proofs.Desk.Replacement
import CardBinder.Proofs.Index.Reload
import CardBinder.Proofs.Catalog.Content
import CardBinder.Proofs.Filter.Agreement
import CardBinder.Proofs.Filter.Conjunction
import CardBinder.Proofs.Filter.Offers
import CardBinder.Proofs.Desk.Moves
import CardBinder.Proofs.Desk.Naming
import CardBinder.Proofs.Holder.DeckList
import CardBinder.Proofs.Resolver.Guesses
import CardBinder.Proofs.Like.Blanks
import CardBinder.Proofs.Resolver.Questions
import CardBinder.Proofs.Articles
import CardBinder.Proofs.Filter.Counted
import CardBinder.Proofs.Desk.Copies
import CardBinder.Proofs.CommandLine.Removal
import CardBinder.Proofs.Desk.Selection
import CardBinder.Proofs.Desk.Renaming
import CardBinder.Proofs.Holder.CardLines
import CardBinder.Proofs.Listing.Tree
import CardBinder.Proofs.Listing.Contents
import CardBinder.Proofs.Csv
import CardBinder.Proofs.Grouping.Pairs
import CardBinder.Proofs.Desk.Numbering
import CardBinder.Proofs.Forest.Descendants
import CardBinder.Proofs.Holder.Calls
