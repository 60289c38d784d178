/-!
# The sample schema

The schema text that a new workspace opens with.
-/

namespace SchemaDiagram

/-- The sample schema. -/
def sampleText : String :=
  "// Use DBML to define your database structure\n" ++
  "// Docs: https://dbml.dbdiagram.io/docs\n" ++
  "\n" ++
  "Table follows \x7b\n" ++
  "  following_user_id integer\n" ++
  "  followed_user_id integer\n" ++
  "  created_at timestamp\n" ++
  "\x7d\n" ++
  "\n" ++
  "Table users \x7b\n" ++
  "  id integer [primary key]\n" ++
  "  username varchar\n" ++
  "  role varchar\n" ++
  "  created_at timestamp\n" ++
  "\x7d\n" ++
  "\n" ++
  "Table posts \x7b\n" ++
  "  id integer [primary key]\n" ++
  "  title varchar\n" ++
  "  body text [note: 'Content of the post']\n" ++
  "  user_id integer [not null]\n" ++
  "  status varchar\n" ++
  "  created_at timestamp\n" ++
  "\x7d\n" ++
  "\n" ++
  "Ref: posts.user_id > users.id // many-to-one\n" ++
  "\n" ++
  "Ref: users.id < follows.following_user_id\n" ++
  "\n" ++
  "Ref: users.id < follows.followed_user_id\n"

end SchemaDiagram
