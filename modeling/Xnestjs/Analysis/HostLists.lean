import Xnestjs.Model.SeparatedText
import Xnestjs.Analysis.RabbitmqSettings
import Xnestjs.Program.GetKafkaConfig

/-!
# Lists of hosts in one text

A list of hosts that was joined with commas, with any white space around them, is read back by
the loaders of Kafka and RabbitMQ. Both split with the same expression, and a joined list is
never the empty text that the RabbitMQ loader replaces by its default.
-/

set_option autoImplicit false

namespace Xnestjs.Analysis

open Xnestjs.Model
open Xnestjs.Program.GetKafkaConfig (KafkaConnectionOptions getKafkaConfig assignBrokers)
open Xnestjs.Program.GetRabbitmqConfig (RabbitmqInit getRabbitmqConfig)

section

variable (h : VarHelpers) (env : Env) (pre : String)
variable (first : ListItem) (rest : List (CommaPadding × ListItem))

/-- INTERNAL: the brokers of `BROKERS`. SOURCE: get-kafka-config.ts:13-15 -/
theorem kafka_brokers_joined (o : KafkaConnectionOptions) (hnone : o.brokers = none)
    (hvar : env (pre ++ "BROKERS") = some (joinItems first rest)) :
    (getKafkaConfig h env o pre).brokers = some (.list (itemTexts first rest)) := by
  show assignBrokers env pre o.brokers = _
  unfold assignBrokers
  rw [hnone, hvar, Option.getD_some, Option.getD_none, splitCommas_joinItems]

/-- INTERNAL: the hosts of a text. SOURCE: get-rabbitmq-config.ts:14-18 -/
theorem rabbitmq_hosts_joined_text :
    getRabbitmqConfig h env (.text (joinItems first rest)) pre .hosts =
      .strs (itemTexts first rest) := by
  have htext := resolved_hosts_text h env pre _ (joinItems first rest) (Or.inl rfl)
  rw [htext, if_neg (joinItems_ne_empty first rest), splitCommas_joinItems]

/-- INTERNAL: the hosts of `HOSTS`. SOURCE: get-rabbitmq-config.ts:14-18 -/
theorem rabbitmq_hosts_joined_variable {init : RabbitmqInit}
    (hinit : init = .absent ∨ init = .text "")
    (hvar : env (pre ++ "HOSTS") = some (joinItems first rest)) :
    getRabbitmqConfig h env init pre .hosts = .strs (itemTexts first rest) := by
  have hdefault : hostsOrDefault env pre = joinItems first rest := by
    simp only [hostsOrDefault, hvar, joinItems_ne_empty, if_false]
  have hempty : init = .text "" ∨ init = .absent ∧ "" = "" := by
    rcases hinit with rfl | rfl
    · exact Or.inr ⟨rfl, rfl⟩
    · exact Or.inl rfl
  rw [resolved_hosts_text h env pre init "" hempty, if_pos rfl, hdefault, splitCommas_joinItems]

/-- **A joined list of hosts** comes back as it was, from `BROKERS` when no brokers are given,
from the text given to the RabbitMQ loader, and from `HOSTS` when nothing or an empty text is
given. SOURCE: get-kafka-config.ts:13-15, get-rabbitmq-config.ts:10-18 -/
theorem joined_hosts_read_back (o : KafkaConnectionOptions) (hnone : o.brokers = none) :
    (env (pre ++ "BROKERS") = some (joinItems first rest) →
      (getKafkaConfig h env o pre).brokers = some (.list (itemTexts first rest))) ∧
    getRabbitmqConfig h env (.text (joinItems first rest)) pre .hosts =
      .strs (itemTexts first rest) ∧
    (env (pre ++ "HOSTS") = some (joinItems first rest) →
      ∀ init, init = .absent ∨ init = .text "" →
        getRabbitmqConfig h env init pre .hosts = .strs (itemTexts first rest)) := by
  refine ⟨?_, ?_, ?_⟩
  · exact kafka_brokers_joined h env pre first rest o hnone
  · exact rabbitmq_hosts_joined_text h env pre first rest
  · intro hvar init hinit
    exact rabbitmq_hosts_joined_variable h env pre first rest hinit hvar

end

/-- Two hosts, the first with a blank inside, with a blank before and a tab after the comma. -/
theorem joined_hosts_read_back_two :
    let h : VarHelpers := ⟨id, id, rfl, rfl⟩
    let text := "a b:9092 ,\tc:9092"
    let env : Env := fun _ => some text
    (getKafkaConfig h env .empty).brokers = some (.list ["a b:9092", "c:9092"]) ∧
      getRabbitmqConfig h env (.text text) "RMQ_" .hosts = .strs ["a b:9092", "c:9092"] ∧
      getRabbitmqConfig h env .absent "RMQ_" .hosts = .strs ["a b:9092", "c:9092"] := by
  intro h text env
  let first : ListItem := ⟨"a b:9092", by decide, by decide, by simp; decide, by simp; decide⟩
  let second : ListItem := ⟨"c:9092", by decide, by decide, by simp; decide, by simp; decide⟩
  let padding : CommaPadding := ⟨[' '], ['\t'], by simp; decide, by simp; decide⟩
  have htext : joinItems first [(padding, second)] = text := by decide
  have hvar : some text = some (joinItems first [(padding, second)]) := by rw [htext]
  have hkafka := joined_hosts_read_back h env "KAFKA_" first [(padding, second)] .empty rfl
  have hrabbit := joined_hosts_read_back h env "RMQ_" first [(padding, second)] .empty rfl
  rw [htext] at hrabbit
  exact ⟨hkafka.1 hvar, hrabbit.2.1, hrabbit.2.2 rfl .absent (Or.inl rfl)⟩

end Xnestjs.Analysis
